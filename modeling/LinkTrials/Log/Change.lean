import LinkTrials.Log.Logger

/-!
What can be done to a logger before it writes, and to an entry before it is written, one step after
the other.
-/
namespace LinkTrials.Log

/-- A change of a logger. -/
inductive Logger.Change where
  | threshold (level : Level)
  | coloured (on : Bool)
  | format (format : Format)
  | session (id : String)
  /-- A field for every later entry; a value without a JSON form is left out. -/
  | context (name : String) (value : Option Json)

def Logger.apply (l : Logger) : Change → Logger
  | .threshold level => { l with threshold := level }
  | .coloured on => { l with coloured := on }
  | .format format => { l with format := format }
  | .session id => { l with session := some id }
  | .context name (some value) => l.withContext name value
  | .context _ none => l

/-- A part added to an entry. -/
inductive Entry.Part where
  | correlation (id : String)
  /-- A value without a JSON form is left out. -/
  | field (name : String) (value : Option Json)
  | location (location : Location)
  | fault (fault : Fault)

def Entry.add (e : Entry) : Part → Entry
  | .correlation id => e.withCorrelation id
  | .field name (some value) => e.withField name value
  | .field _ none => e
  | .location location => e.withLocation location
  | .fault fault => e.withFault fault

end LinkTrials.Log
