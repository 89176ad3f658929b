import Criteria.CommandLine.Arguments

namespace Criteria.CommandLine

/-! ## What the program says about its use -/

def programName : String := "mongocriteria"

def versionText : String := programName ++ "-cli 0.1.0"

def usageLine : String :=
  s!"Usage: {programName} [OPTIONS] [CRITERIA]"

def Flag.written (flag : Flag) : String :=
  match flag with
  | .file => "--file <FILE>"
  | .schema => "--schema <SCHEMA>"
  | _ => "--" ++ flag.longName

def UsageError.message : UsageError → String
  | unknownFlag text => s!"unexpected argument '{text}' found"
  | missingPath flag => s!"a value is required for '{flag.written}' but none was supplied"
  | emptyPath flag => s!"a value is required for '{flag.written}' but none was supplied"
  | unexpectedValue flag value =>
    s!"unexpected value '{value}' for '{flag.written}' found; no more were expected"
  | repeatedFlag flag => s!"the argument '{flag.written}' cannot be used multiple times"
  | unexpectedOperand text => s!"unexpected argument '{text}' found"
  | missingCriteria => "the following required arguments were not provided:\n  <CRITERIA>"

def UsageError.text (error : UsageError) : String :=
  s!"error: {error.message}\n\n{usageLine}\n\nFor more information, try '--help'."

def helpText : String :=
  "\n".intercalate
    [ usageLine
    , ""
    , "Arguments:"
    , "  [CRITERIA]  The criteria to translate, as Extended JSON"
    , ""
    , "Options:"
    , "  -f, --file <FILE>              Read the criteria from this file instead"
    , "  -s, --schema <SCHEMA>          A JSON file mapping field names to \x7b\"type\": ...\x7d descriptors, default = no schema"
    , "      --keep-unparsable-numbers  Keep unparsable numeric strings instead of replacing them with NaN"
    , "      --object-id-identity       Convert 24-hex identity values into ObjectIds"
    , "  -d, --diagnostics              Print any fallback diagnostics after the translation"
    , "  -h, --help                     Print help"
    , "  -V, --version                  Print version" ]

end Criteria.CommandLine
