import LinkTrials.CommandLine.Arguments

/-!
What users are told about the command line.
-/
namespace LinkTrials.CommandLine

def versionText : String := "ncperf 0.1.0"

def column (s : String) : String :=
  s ++ String.ofList (List.replicate (38 - s.length) ' ')

def optionLine (o : ValueOption) : String :=
  column ("      --" ++ o.name ++ " <" ++ o.placeholder ++ ">") ++ o.description

def flagLine (f : Flag) : String := column ("      --" ++ f.name) ++ f.description

def usage : String := "Usage: ncperf [OPTIONS] --trials <FILE>"

def helpText : String :=
  "\n".intercalate
    (["Evaluate quick-start trial results against throughput and latency targets", "", usage, "",
      "Options:"] ++
    ValueOption.all.map optionLine ++ Flag.all.map flagLine ++
    [column "  -h, --help" ++ "Print help", column "  -V, --version" ++ "Print version"])

end CommandLine

def Misuse.message : Misuse → String
  | .missingRequired => "the following required arguments were not provided: --trials <FILE>"
  | .invalidValue o => "invalid or missing value for '--" ++ o.name ++ " <" ++ o.placeholder ++ ">'"
  | .unknownArgument argument => s!"unexpected argument '{argument}' found"
  | .conflict name => s!"the argument '--{name}' cannot be used here or more than once"
  | .needlessValue name => s!"unexpected value for '--{name}' found; no more were expected"
  | .refusedValue o message => s!"invalid value for '--{o.name}': {message}"

end LinkTrials
