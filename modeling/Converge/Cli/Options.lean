set_option autoImplicit false

namespace Converge.Cli

def programName : String := "scalaris-svc"

def version : String := "0.1.0"

def defaultConfig : String := "/etc/scalaris/svc.toml"

def helpLines : List String := [
  programName ++ " " ++ version,
  "Enable and start the scalaris and scalaris-monitor init services.",
  "",
  "USAGE:",
  "    " ++ programName ++ " [OPTIONS]",
  "",
  "OPTIONS:",
  "    -c, --config <PATH>      Path to configuration file",
  "                             [default: " ++ defaultConfig ++ "]",
  "    -p, --platform <ID>      Platform identifier (overrides config and os-release)",
  "        --dry-run            Validate and print the plan without running anything",
  "    -h, --help               Print help information",
  "    -V, --version            Print version information",
  ""]

def helpText : String := String.join (helpLines.map (· ++ "\n"))

def versionText : String := programName ++ " " ++ version ++ "\n"

structure Options where
  config : Option String := none
  platform : Option String := none
  dryRun : Bool := false
  deriving DecidableEq, Repr

-- The value in one word with the option, behind an equals sign.
def inlineValue? (long word : String) : Option String :=
  let lead := long.toList ++ ['=']
  if lead.isPrefixOf word.toList then some (String.ofList (word.toList.drop lead.length)) else none

-- The value of an option: the next word, or the rest of its own word.
def value? (long short : String) : List String → Option String
  | [] => none
  | word :: rest =>
    match rest with
    | next :: _ =>
      if word = long || word = short then some next
      else (inlineValue? long word).orElse fun _ => value? long short rest
    | [] => inlineValue? long word

def Options.parse (words : List String) : Options where
  config := value? "--config" "-c" words
  platform := value? "--platform" "-p" words
  dryRun := words.contains "--dry-run"

def asksForHelp (words : List String) : Bool :=
  words.any fun word => word = "--help" || word = "-h"

def asksForVersion (words : List String) : Bool :=
  words.any fun word => word = "--version" || word = "-V"

end Converge.Cli
