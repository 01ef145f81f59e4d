import ReleaseAdvisor.Json.Reader
import ReleaseAdvisor.Path
import ReleaseAdvisor.Pattern.Fault
import ReleaseAdvisor.Release
import ReleaseAdvisor.Toml.Table

/-!
What can go wrong. A report names its cause and has a code, a message and sometimes a hint; a
refusal turns down one value; a misuse is a value of a kind that an operation cannot take.
-/

namespace ReleaseAdvisor

inductive Code where
  | configNotFound
  | configInvalid
  | configInvalidKey
  | releaseInvalid
  | moduleNotFound
  | parserConfigInvalid
  | commitsInvalid
  deriving DecidableEq, Repr

namespace Code

def all : List Code :=
  [.configNotFound, .configInvalid, .configInvalidKey, .releaseInvalid, .moduleNotFound,
    .parserConfigInvalid, .commitsInvalid]

def name : Code → String
  | .configNotFound => "CA-CONFIG-NOT-FOUND"
  | .configInvalid => "CA-CONFIG-INVALID"
  | .configInvalidKey => "CA-CONFIG-INVALID-KEY"
  | .releaseInvalid => "CA-RELEASE-INVALID"
  | .moduleNotFound => "CA-MODULE-NOT-FOUND"
  | .parserConfigInvalid => "CA-PARSER-CONFIG-INVALID"
  | .commitsInvalid => "CA-COMMITS-INVALID"

def ofName? (s : String) : Option Code := all.find? fun c => c.name == s

def meaning : Code → String
  | .configNotFound => "The configuration file does not exist."
  | .configInvalid =>
    "\"release_rules\" must be a list of rules, or another option has the wrong type."
  | .configInvalidKey => "The configuration contains an unknown key."
  | .releaseInvalid =>
    "A release rule has no \"release\" value, or the value is not a release type."
  | .moduleNotFound => "A preset, config or release rules module could not be located."
  | .parserConfigInvalid => "The commit grammar configuration is invalid."
  | .commitsInvalid => "The commit input could not be read or is not a list of commits."

def advice : Code → String
  | .configNotFound => "Check the --config-file path, or omit it to use the defaults."
  | .configInvalid =>
    "Each rule is a table such as \x7b type = \"feat\", release = \"minor\" \x7d."
  | .configInvalidKey =>
    "Valid keys are: preset, config, parser_opts, release_rules, initial_phase."
  | .releaseInvalid =>
    "Use major, premajor, minor, preminor, patch, prepatch, prerelease, false or null."
  | .moduleNotFound =>
    "Use an importable module name, or a path relative to the working directory."
  | .parserConfigInvalid =>
    "Check that every *_pattern in parser_opts is a valid regular expression."
  | .commitsInvalid =>
    "Pass a JSON array of messages or \x7b\"message\", \"hash\"\x7d objects, or NUL-separated " ++
      "text from git log -z --format=%B."

def explanation (c : Code) : String := c.name ++ ": " ++ c.meaning ++ "\n  Hint: " ++ c.advice

end Code

def explain (name : String) : Option String := (Code.ofName? name).map Code.explanation

inductive ReadFault where
  | missing
  | notDirectory
  | directory
  | nameTooLong
  | denied
  deriving DecidableEq, Repr

def ReadFault.text : ReadFault → String
  | .missing => "[Errno 2] No such file or directory"
  | .notDirectory => "[Errno 20] Not a directory"
  | .denied => "[Errno 13] Permission denied"
  | .directory => "[Errno 21] Is a directory"
  | .nameTooLong => "[Errno 36] File name too long"

inductive Role where
  | preset (name : String)
  | config (name : String)
  deriving DecidableEq, Repr

inductive DataFault where
  | json (message : String)
  | toml
  deriving DecidableEq, Repr

inductive Report where
  | configMissing (path : String)
  | configDenied (path : String)
  | configUnreadable (path : String)
  | unknownKey (key source : String) (suggestion : Option String)
  | wrongKind (key expected found source : String)
  | patternInvalid (option source : String) (fault : Pattern.Fault)
  | fieldWithoutGroup (pattern : Value)
  | ruleRegexInvalid (value source : String) (fault : Pattern.Fault)
  | ruleMalformed
  | releaseUnknown (value : Value)
  | rulesNotList
  | moduleMissing (asked : Option Role) (reference path : String)
  | fileMissing (path : String)
  | moduleWithoutOptions (reference : String)
  | dataInvalid (path : String) (fault : DataFault)
  | commitsNotEntries
  | commitsUnreadable (source path : String) (fault : ReadFault)

namespace Report

def validKeys : List String := ["config", "initial_phase", "parser_opts", "preset", "release_rules"]

/-- What the reader of a damaged TOML text says, which is left open. -/
def tomlText : String := "<toml error>"

def code : Report → Code
  | .configMissing _ => .configNotFound
  | .configDenied _ => .configNotFound
  | .configUnreadable _ => .configInvalid
  | .unknownKey _ _ _ => .configInvalidKey
  | .wrongKind _ _ _ _ => .configInvalid
  | .patternInvalid _ _ _ => .parserConfigInvalid
  | .fieldWithoutGroup _ => .parserConfigInvalid
  | .ruleRegexInvalid _ _ _ => .configInvalid
  | .ruleMalformed => .releaseInvalid
  | .releaseUnknown _ => .releaseInvalid
  | .rulesNotList => .configInvalid
  | .moduleMissing _ _ _ => .moduleNotFound
  | .fileMissing _ => .moduleNotFound
  | .moduleWithoutOptions _ => .configInvalid
  | .dataInvalid _ _ => .configInvalid
  | .commitsNotEntries => .commitsInvalid
  | .commitsUnreadable _ _ _ => .commitsInvalid

def message : Report → String
  | .configMissing path => "Config file " ++ path ++ " does not exist"
  | .configDenied path =>
    "Failed to read " ++ path ++ ": " ++ ReadFault.denied.text ++ ": " ++ Text.quoted path
  | .configUnreadable path => "Failed to parse " ++ path ++ ": " ++ tomlText
  | .unknownKey key source _ => "Unknown key '" ++ key ++ "' in " ++ source
  | .wrongKind key expected found _ =>
    "'" ++ key ++ "' must be " ++ expected ++ ", got " ++ found
  | .patternInvalid option source fault =>
    "Error in commit parser configuration: " ++ option ++ " " ++ Text.quoted source ++
      " is not a valid pattern: " ++ fault.message source
  | .fieldWithoutGroup pattern =>
    "Error in commit parser configuration: field_pattern " ++ pattern.written ++
      " must capture the field name in a group"
  | .ruleRegexInvalid value source fault =>
    "Error in commit-analyzer configuration: " ++ Text.quoted value ++
      " is not a valid regular expression: " ++ fault.message source
  | .ruleMalformed =>
    "Error in commit-analyzer configuration: rules must be an object with a \"release\" property"
  | .releaseUnknown value =>
    "Error in commit-analyzer configuration: \"" ++ value.shown ++
      "\" is not a valid release type. Valid values are: [" ++
      ", ".intercalate (Release.all.map fun r => "\"" ++ r.name ++ "\"") ++ "]"
  | .rulesNotList =>
    "Error in commit-analyzer configuration: \"release_rules\" must be an array of rules"
  | .moduleMissing asked reference path =>
    (match asked with
      | none => ""
      | some (.preset name) => "Preset: \"" ++ name ++ "\" does not exist: "
      | some (.config name) => "Config: \"" ++ name ++ "\" does not exist: ") ++
      "Cannot find module \"" ++ reference ++ "\" or \"" ++ path ++ "\"."
  | .fileMissing path => "Cannot find file \"" ++ path ++ "\"."
  | .moduleWithoutOptions reference =>
    "Module \"" ++ reference ++
      "\" does not define a PARSER_OPTS mapping or a parser_opts() factory"
  | .dataInvalid path fault =>
    "Cannot parse " ++ path ++ ": " ++
      (match fault with
        | .json message => message
        | .toml => tomlText)
  | .commitsNotEntries => "Commit input must be an array of strings or objects"
  | .commitsUnreadable source path fault =>
    "Cannot read commits from " ++ source ++ ": " ++ fault.text ++ ": " ++ Text.quoted path

def hint : Report → String
  | .configMissing _ => "Check the path, or omit it to use the defaults."
  | .configDenied _ => ""
  | .configUnreadable _ => ""
  | .unknownKey _ _ suggestion =>
    match suggestion with
    | some key => "Did you mean '" ++ key ++ "'?"
    | none => "Valid keys are: " ++ ", ".intercalate validKeys ++ "."
  | .wrongKind key _ _ source => "Check the value of " ++ key ++ " in " ++ source ++ "."
  | .patternInvalid _ _ _ =>
    "Patterns use Python regular expression syntax; named groups are written (?P<name>...)."
  | .fieldWithoutGroup _ => "For example: ^-(.*?)-$"
  | .ruleRegexInvalid _ _ _ => "Regular expressions in rules are written as \"/pattern/\"."
  | .ruleMalformed => "Example rule: \x7b type = \"feat\", release = \"minor\" \x7d."
  | .releaseUnknown _ => "A rule may also set release to false (suppress) or null (no release)."
  | .rulesNotList =>
    "Pass a list of rules, or the name of a module or file that defines one."
  | .moduleMissing _ _ _ =>
    "Use an importable module name, or a path relative to the working directory."
  | .fileMissing _ => "Data files are resolved relative to the working directory."
  | .moduleWithoutOptions _ =>
    "Define PARSER_OPTS = \x7b\"header_pattern\": ..., \"header_correspondence\": [...]\x7d."
  | .dataInvalid _ _ => "Check the file syntax."
  | .commitsNotEntries =>
    "Pass a JSON array of messages or of \x7b\"message\", \"hash\"\x7d objects."
  | .commitsUnreadable _ _ _ => ""

def render (code message hint : String) : String :=
  "error[" ++ code ++ "]: " ++ message ++ "\n" ++
    (if hint.isEmpty then "" else "  |\n  = hint: " ++ hint ++ "\n") ++ "\n"

def rendered (r : Report) : String := render r.code.name r.message r.hint

end Report

inductive Refusal where
  | notRelease (value : Value)
  | emptyMessage
  | emptyName (path : String)
  | zeroInPath
  | hugeNumber (digits : Nat)
  | unwritableNumber
  | classFlagsClash
  | undecodable (words : String)
  deriving Repr

def Refusal.message : Refusal → String
  | .notRelease value => value.written ++ " is not a valid ReleaseType"
  | .emptyMessage => "Expected a non-empty commit message"
  | .emptyName path => "PosixPath(" ++ Text.quoted path ++ ") has an empty name"
  | .zeroInPath => "embedded null byte"
  | .hugeNumber digits => tooLongText (some digits)
  | .unwritableNumber => tooLongText none
  | .classFlagsClash => Pattern.Cause.classFlagsClash.text
  | .undecodable words => words

/-- What the code of a module raises. An import by name takes the first three to mean that there is
no module of that name. -/
inductive Exception where
  | moduleMissing
  | kind
  | value
  | other (name : String)
  deriving DecidableEq, Repr

def Exception.isCaught : Exception → Bool
  | .other _ => false
  | _ => true

/-- What breaks a run off: a value of a kind that an operation cannot take, one that lacks a part
asked for, a number out of range, a name or a file that the system refuses, tables that do not go
together, or what the code of a module raises. -/
inductive Misuse where
  | kind
  | part
  | range
  | system
  | clash (clash : Toml.Clash)
  | raised (exception : Exception)
  deriving DecidableEq, Repr

inductive Failure where
  | report (report : Report)
  | refusal (refusal : Refusal)
  | misuse (misuse : Misuse)

end ReleaseAdvisor
