import LinkTrials.Settings.Variable

/-!
What users are told about the variables: a help text, and an example of a file that sets them.
-/
namespace LinkTrials.Settings

/-- A text filled up with blanks to a width of 36. -/
def column (s : String) : String :=
  s ++ String.ofList (List.replicate (36 - s.length) ' ')

def helpEntry (v : Variable) : String :=
  "  " ++ column v.name ++ " " ++ v.description ++ "\n" ++
    "  " ++ column "" ++ " Example: " ++ v.sample ++ "\n\n"

/-- All variables, and which source of settings comes before which. -/
def help : String :=
  "Supported Environment Variables:\n\n" ++ String.join (Variable.all.map helpEntry) ++
    "Configuration Priority (highest to lowest):\n" ++
    "  1. Command-line arguments\n" ++
    "  2. Environment variables\n" ++
    "  3. .env file values\n" ++
    "  4. Parameters file (--params)\n" ++
    "  5. Default values\n"

/-- A variable in the example, switched off. -/
def exampleLine (v : Variable) (text : String) : String := s!"# {v.name}={text}"

def exampleLines : List String :=
  ["# Nearby Connections Quick-Start Metrics Configuration",
   "#",
   "# Values here seed the test parameters. Environment variables already set",
   "# in the shell take precedence, and command-line arguments override both.",
   "",
   "# Name used to tag the run in reports",
   exampleLine .label "unspecified",
   "",
   "# Abort the run on the first failed trial (true/false)",
   exampleLine .failFast "false",
   "",
   "# WiFi network used for WLAN trials",
   exampleLine .countryCode "US",
   exampleLine .ssid "",
   exampleLine .password "",
   "",
   "# Toggle airplane mode on the target side before each trial (true/false)",
   exampleLine .toggleAirplaneMode "true",
   "",
   "# Disconnect WiFi once the run completes (true/false)",
   exampleLine .disconnectWifi "false",
   "",
   "# Throughput benchmarks in KB/s and the percentile compared against them",
   exampleLine .btBenchmark "10.0",
   exampleLine .btPercentile "95",
   exampleLine .wifiBenchmark "10240.0",
   exampleLine .wifiPercentile "95",
   "",
   "# Payload used for throughput measurement (FILE or STREAM)",
   exampleLine .payload "STREAM",
   "",
   "# Medium requested for the upgraded connection, by name or code",
   exampleLine .medium "UPGRADE_TO_ALL_WIFI",
   "",
   "# How the upgrade is carried out (DEFAULT, DISRUPTIVE, NON_DISRUPTIVE)",
   exampleLine .manner "DEFAULT",
   "",
   "# Acceptance targets as fractions in [0, 1]",
   exampleLine .successTarget "0.98",
   exampleLine .reachTarget "0.95"]

/-- A file in which every variable is switched off and has its default. -/
def exampleFile : String := String.join (exampleLines.map fun line => line ++ "\n")

end LinkTrials.Settings
