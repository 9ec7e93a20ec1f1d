import Converge.Tool.Sed.Run

set_option autoImplicit false

namespace Converge.Tool.Sed

open Converge.Process
open Converge.Text

def usageLines : List String := [
  "",
  "  -n, --quiet, --silent",
  "                 suppress automatic printing of pattern space",
  "      --debug",
  "                 annotate program execution",
  "  -e script, --expression=script",
  "                 add the script to the commands to be executed",
  "  -f script-file, --file=script-file",
  "                 add the contents of script-file to the commands to be executed",
  "  --follow-symlinks",
  "                 follow symlinks when processing in place",
  "  -i[SUFFIX], --in-place[=SUFFIX]",
  "                 edit files in place (makes backup if SUFFIX supplied)",
  "  -l N, --line-length=N",
  "                 specify the desired line-wrap length for the `l' command",
  "  --posix",
  "                 disable all GNU extensions.",
  "  -E, -r, --regexp-extended",
  "                 use extended regular expressions in the script",
  "                 (for portability use POSIX -E).",
  "  -s, --separate",
  "                 consider files as separate rather than as a single,",
  "                 continuous long stream.",
  "      --sandbox",
  "                 operate in sandbox mode (disable e/r/w commands).",
  "  -u, --unbuffered",
  "                 load minimal amounts of data from the input files and flush",
  "                 the output buffers more often",
  "  -z, --null-data",
  "                 separate lines by NUL characters",
  "      --help     display this help and exit",
  "      --version  output version information and exit",
  "",
  "If no -e, --expression, -f, or --file option is given, then the first",
  "non-option argument is taken as the sed script to interpret.  All",
  "remaining arguments are names of input files; if no input files are",
  "specified, then the standard input is read.",
  ""]

-- What stands at the end of the text differs from one distribution to another.
def explain (l : Launch) (closing : List String) (descriptor : Nat) : Act Unit := do
  let first := "Usage: " ++ l.name ++ " [OPTION]... \x7bscript-only-if-no-other-script\x7d [input-file]..."
  let _ ← Act.say descriptor (String.join ((first :: usageLines ++ closing).map (· ++ "\n")))

-- Letters in one word, with what follows the one whose argument is optional as a word of its own.
def spreadLetters : List Char → List Char → List String × Bool
  | [], done => (if done.isEmpty then [] else [String.ofList ('-' :: done.reverse)], false)
  | 'i' :: rest, done =>
    ((if done.isEmpty then [] else [String.ofList ('-' :: done.reverse)]) ++ ["-I", String.ofList rest], false)
  | c :: rest, done =>
    if c = 'e' || c = 'f' || c = 'l' then
      ([String.ofList ('-' :: (done.reverse ++ c :: rest))], rest.isEmpty)
    else spreadLetters rest (c :: done)

def spread : List String → List String
  | [] => []
  | w :: rest =>
    match w.toList with
    | ['-', '-'] => w :: rest
    | '-' :: '-' :: _ =>
      if w = "--in-place" then "-I" :: "" :: spread rest
      else if w.startsWith "--in-place=" then "-I" :: String.ofList (w.toList.drop 11) :: spread rest
      else w :: spread rest
    | '-' :: c :: cs =>
      let (words, takesNext) := spreadLetters (c :: cs) []
      match takesNext, rest with
      | true, argument :: rest => words ++ argument :: spread rest
      | _, rest => words ++ spread rest
    | _ => w :: spread rest

def options : Options := { letters := "ne:f:ErI:suzl:pdxF", long := [("quiet", 'n'), ("silent", 'n'),
    ("expression", 'e'), ("file", 'f'), ("regexp-extended", 'E'), ("separate", 's'),
    ("unbuffered", 'u'), ("null-data", 'z'), ("zero-terminated", 'z'), ("line-length", 'l'),
    ("posix", 'p'), ("debug", 'd'), ("sandbox", 'x'), ("follow-symlinks", 'F')] }

def chunks (l : Launch) : List (Char × String) → List Chunk → Act (Option (List Chunk))
  | [], done => return some done.reverse
  | ('f', path) :: rest, done => do
    match ← content path with
    | .ok octets =>
      let cs := (Raw.ofOctets octets).toList
      let cs := if cs.getLast? == some '\n' then cs.dropLast else cs
      chunks l rest (⟨some path, cs⟩ :: done)
    | .error e => do
      complain l ("couldn't open file " ++ path ++ ": " ++ e.reason)
      return none
  | (_, text) :: rest, done => chunks l rest (⟨none, text.toList⟩ :: done)

def openGoals (l : Launch) : List String → List (String × Nat) → Act (Option (List (String × Nat)))
  | [], done => return some done
  | path :: rest, done => do
    if path = "/dev/stdout" || path = "/dev/stderr" then openGoals l rest done
    else
      match ← Act.openAt 3 path Process.Manner.writing false with
      | .ok number => openGoals l rest ((path, number) :: done)
      | .error e => do
        complain l ("couldn't open file " ++ path ++ ": " ++ e.reason)
        return none

def tool (closing : List String) : Process.Program := fun l =>
  if l.words.contains "--help" then do
    explain l closing 1
    return 0
  else match options.parse (spread l.words) with
  | .error m => do
    complain l m
    explain l closing 2
    return 1
  | .ok p => do
    let own := p.options.filter fun o => o.1 = 'e' || o.1 = 'f'
    match own, p.words with
    | [], [] => do
      explain l closing 2
      return 1
    | _, words => do
      let sources := if own.isEmpty then [('e', words.headD "")] else own
      let files := if own.isEmpty then words.drop 1 else words
      match ← chunks l sources [] with
      | none => return 4
      | some chunks =>
        match Program.ofChunks (p.has 'E' || p.has 'r') (p.has 'n') chunks with
        | .error (message, status) => do
          complain l message
          return status
        | .ok program => do
          if files.isEmpty && p.has 'I' then
            complain l "no input files"
            return 1
          match ← openGoals l program.goals [] with
          | none => return 4
          | some goals =>
            let m : Manner := {
              separate := p.has 's' || p.has 'I', inPlace := p.value? 'I'
              sign := if p.has 'z' then Char.ofNat 0 else '\n'
              width := ((p.value? 'l').bind Tool.number?).getD 70 }
            -- A range that starts before the first line has begun already.
            let begun := ((List.range program.commands.size).zip program.commands.toList).filterMap
              fun (k, c) => match c.start with
                | some .start => some (k, (none : Option Nat))
                | _ => none
            cycles l m program manyTimes false {
              waiting := if files.isEmpty then ["-"] else files, goals := goals, active := begun }

end Converge.Tool.Sed
