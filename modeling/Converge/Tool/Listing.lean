import Converge.Shell.Pattern
import Converge.Tool.Calendar
import Converge.Tool.Tree

set_option autoImplicit false

namespace Converge.Tool

open Converge.Process

def kindLetter : Kind → Char
  | .file => '-'
  | .directory => 'd'
  | .link => 'l'
  | .characters => 'c'
  | .pipe => 'p'

def modeRow (s : Status) : String := String.singleton (kindLetter s.kind) ++ Permission.row s.mode

def blocks (s : Status) : Nat :=
  match s.kind with
  | .file | .directory => (s.size + 4095) / 4096 * 4
  | _ => 0

def humanSize (n : Nat) : String :=
  let rec go : Nat → Nat → List Char → String
    | 0, n, _ => toString n
    | _, n, [] => toString n
    | room + 1, tenths, unit :: units =>
      if tenths < 10240 then
        if tenths ≤ 99 then
          toString (tenths / 10) ++ "." ++ toString (tenths % 10) ++ String.singleton unit
        else toString ((tenths + 9) / 10) ++ String.singleton unit
      else go room ((tenths + 1023) / 1024) units
  if n < 1024 then toString n else go 8 ((n * 10 + 1023) / 1024) "KMGTPE".toList

structure Row where
  name : String
  path : String
  status : Status

namespace Row

def mark (r : Row) (p : Parsed) : String :=
  match r.status.kind with
  | .directory => if p.has 'F' || p.has 'p' then "/" else ""
  | .link => if p.has 'F' && !p.has 'l' then "@" else ""
  | .file => if p.has 'F' && r.status.mode &&& 0o111 ≠ 0 then "*" else ""
  | .pipe => if p.has 'F' then "|" else ""
  | .characters => ""

def title (r : Row) (p : Parsed) : String :=
  let escaped (cs : List Char) (also : List Char) : List Char := cs.flatMap fun c =>
    if c = '\n' then ['\\', 'n'] else if c = '\t' then ['\\', 't']
    else if also.contains c || c = '\\' then ['\\', c] else [c]
  if p.has 'Q' then "\"" ++ String.ofList (escaped r.name.toList ['"']) ++ "\""
  else if p.has 'b' then String.ofList (escaped r.name.toList [' '])
  else if p.has 'q' then String.ofList (r.name.toList.map fun c => if c.toNat < 32 then '?' else c)
  else r.name

def extension (r : Row) : String :=
  let behind := r.name.toList.reverse.takeWhile (· ≠ '.')
  if behind.length = r.name.length then "" else String.ofList behind.reverse

end Row

def sortRows (p : Parsed) (rows : List Row) : List Row :=
  let byName (a b : Row) : Bool := !(b.name < a.name)
  let named := rows.mergeSort byName
  let sorted := match p.last? ['t', 'S', 'X', 'U', 'f', 'v', 'c', 'u'] with
    | some 't' => named.mergeSort fun a b => b.status.time ≤ a.status.time
    | some 'S' => named.mergeSort fun a b => b.status.size ≤ a.status.size
    | some 'X' => named.mergeSort fun a b => !(b.extension < a.extension)
    | _ => named
  let turned := if p.has 'r' then sorted.reverse else sorted
  if p.has 'D' then
    let isDirectory (r : Row) : Bool := r.status.kind = .directory
    turned.filter isDirectory ++ turned.filter fun r => !isDirectory r
  else turned

-- When a file was changed: the hour for the last half year, the year for older ones.
def timeText (p : Parsed) (now time : Int) : String :=
  match p.value? 'Y' with
  | some "full-iso" => Calendar.render "%Y-%m-%d %H:%M:%S.%N %z" time
  | some "long-iso" => Calendar.render "%Y-%m-%d %H:%M" time
  | some "iso" => Calendar.render "%m-%d %H:%M" time
  | some form =>
    if form.startsWith "+" then Calendar.render (String.ofList (form.toList.drop 1)) time
    else Calendar.render "%b %e %H:%M" time
  | none =>
    let isRecent := time ≤ now && now - time < 15778476 * Calendar.second
    Calendar.render (if isRecent then "%b %e %H:%M" else "%b %e  %Y") time

def fileNumber (v : View) (s : Status) : Nat :=
  match s.place with
  | none => 1
  | some place =>
    let shared := (v.state.places place).mergeSort fun a b => !(pathOf b < pathOf a)
    ((pathOf (shared.headD place)).toList.foldl (fun n c => (n * 31 + c.toNat) % 9000011) 7) + 1000000

def columns (v : View) (p : Parsed) (now : Int) (r : Row) : List (String × Bool) :=
  let s := r.status
  let owner := if p.has 'n' then "0" else "root"
  let size := if p.has 'h' then humanSize s.size else toString s.size
  (if p.has 'i' then [(toString (fileNumber v s), true)] else []) ++
    (if p.has 's' then [(toString (blocks s), true)] else []) ++
      if !p.has 'l' then []
      else
        [(modeRow s, false), (toString s.names, true)] ++
          (if p.has 'g' then [] else [(owner, false)]) ++
            (if p.has 'o' || p.has 'G' then [] else [(owner, false)]) ++
              [(if s.kind = .characters then "1, 3" else size, true), (timeText p now s.time, false)]

def rowLines (v : View) (p : Parsed) (now : Int) (rows : List Row) : List String :=
  let all := rows.map (columns v p now)
  let widths := all.foldl (fun ws cs =>
    if ws.isEmpty then cs.map (·.1.length)
    else (ws.zip cs).map fun (w, c) => max w c.1.length) []
  (rows.zip all).map fun (r, cs) =>
    let front := (cs.zip widths).map fun (c, w) =>
      (if c.2 then padLeft w c.1 else padRight w c.1) ++ " "
    let goal := if p.has 'l' && r.status.kind = .link then
        match v.linkTarget? r.path with
        | some target => " -> " ++ target
        | none => ""
      else ""
    String.join front ++ r.title p ++ r.mark p ++ goal

-- Names side by side in as few lines as fit, column by column or line by line.
def abreast (width : Nat) (across : Bool) (names : List String) : List String :=
  let count := names.length
  let cell (lineCount columnCount k c : Nat) : Option String :=
    let index := if across then k * columnCount + c else c * lineCount + k
    if columnCount ≤ c then none else names[index]?
  let columnsOf (lineCount : Nat) : Nat := (count + lineCount - 1) / lineCount
  let widthsOf (lineCount : Nat) : List Nat :=
    let n := columnsOf lineCount
    (List.range n).map fun c =>
      let longest := (List.range lineCount).foldl (fun w k =>
        max w (((cell lineCount n k c).map String.length).getD 0)) 0
      if c + 1 = n then longest else longest + 2
  let fits (lineCount : Nat) : Bool := (widthsOf lineCount).foldl (· + ·) 0 < width
  let lineCount := (((List.range count).map (· + 1)).find? fits).getD (max count 1)
  let widths := widthsOf lineCount
  let n := columnsOf lineCount
  -- The gaps are filled with tabs as far as they go.
  let rec gap : Nat → Nat → Nat → String
    | 0, _, _ => ""
    | room + 1, position, goal =>
      if goal ≤ position then ""
      else if goal / 8 > (position + 1) / 8 then "\t" ++ gap room (position / 8 * 8 + 8) goal
      else " " ++ gap room (position + 1) goal
  (List.range lineCount).map fun k =>
    let (text, _, _) := (List.range n).foldl (fun (text, position, start) c =>
      match cell lineCount n k c with
      | none => (text, position, start)
      | some name =>
        (text ++ gap (start - position + 1) position start ++ name, start + name.length,
          start + widths.getD c 0)) ("", 0, 0)
    text

def shownRows (v : View) (p : Parsed) (now : Int) (rows : List Row) : String :=
  if rows.isEmpty then "" else
  let width := ((p.value? 'w').bind number?).getD 80
  match p.last? ['l', 'C', 'x', 'm', '1', 'g', 'n', 'o'] with
  | some 'C' => String.join ((abreast width false (rowLines v p now rows)).map (· ++ "\n"))
  | some 'x' => String.join ((abreast width true (rowLines v p now rows)).map (· ++ "\n"))
  | some 'm' => if rows.isEmpty then "" else String.intercalate ", " (rowLines v p now rows) ++ "\n"
  | _ => String.join ((rowLines v p now rows).map (· ++ "\n"))

def isHidden (name : String) : Bool := name.startsWith "."

def directoryRows (v : View) (p : Parsed) (path : String) : List Row :=
  let all := p.last? ['a', 'A', 'f'] ≠ none
  let dots := if p.last? ['a', 'A', 'f'] = some 'a' || p.last? ['a', 'A', 'f'] = some 'f' then
      [".", ".."] else []
  let patterns := (p.options.filter (·.1 == 'I')).map (·.2)
  let isLeftOut (name : String) : Bool :=
    (!all && isHidden name) || (p.has 'B' && name.endsWith "~") ||
      patterns.any fun pattern =>
        Shell.Pattern.fits (Shell.Pattern.ofText pattern) name.toList
  let names := dots ++ (v.names path).filter fun name => !isLeftOut name
  sortRows p (names.filterMap fun name =>
    let whole := below path name
    ((v.status? (p.has 'L') whole).orElse fun _ => v.status? false whole).map fun s =>
      ⟨name, whole, s⟩)

def listDirectory (v : View) (p : Parsed) (now : Int) : Nat → Bool → Bool → String → String
  | 0, _, _, _ => ""
  | room + 1, isFirst, titled, path =>
    let rows := directoryRows v p path
    let head := (if isFirst then "" else "\n") ++ if titled then path ++ ":\n" else ""
    let total := if p.has 'l' || p.has 's' then
        "total " ++ toString (rows.foldl (fun n r => n + blocks r.status) 0) ++ "\n"
      else ""
    let inner := if p.has 'R' then
        (rows.filter fun r => r.status.kind = .directory && r.name ≠ "." && r.name ≠ "..").map fun r =>
          listDirectory v p now room false true r.path
      else []
    head ++ total ++ shownRows v p now rows ++ String.join inner

def listWords (ws : List String) : List String :=
  (ws.filter fun w => !(w.startsWith "--color" || w = "--show-control-chars" || w = "--literal")).flatMap
    fun w =>
      if w.startsWith "--time-style=" then ["-Y" ++ String.ofList (w.toList.drop 13)]
      else if w = "--full-time" then ["-l", "-Yfull-iso"]
      else if w.startsWith "--sort=" then
        [match String.ofList (w.toList.drop 7) with
          | "time" => "-t"
          | "size" => "-S"
          | "extension" => "-X"
          | "none" => "-U"
          | _ => "-k"]
      else if w = "--format=single-column" then ["-1"]
      else if w = "--format=long" then ["-l"]
      else if w.startsWith "--indicator-style=" then
        match String.ofList (w.toList.drop 18) with
        | "classify" => ["-F"]
        | "slash" => ["-p"]
        | _ => []
      else [w]

def ls : Program := fun l =>
  withOptions { letters := "aAbBcCdDfFgGhHI:iklLmnNopqQrRsStT:uUvw:xXY:Z1", long := [("all", 'a'),
    ("almost-all", 'A'), ("escape", 'b'), ("ignore-backups", 'B'), ("directory", 'd'),
    ("classify", 'F'), ("no-group", 'G'), ("human-readable", 'h'), ("ignore", 'I'), ("inode", 'i'),
    ("dereference", 'L'), ("numeric-uid-gid", 'n'), ("quote-name", 'Q'), ("reverse", 'r'),
    ("recursive", 'R'), ("size", 's'), ("width", 'w'), ("group-directories-first", 'D'),
    ("hide-control-chars", 'q')] } 2 { l with words := listWords l.words } fun p => do
    let p : Parsed := if p.has 'g' || p.has 'o' || p.has 'n' then
        { p with options := p.options ++ [('l', "")] } else p
    let v ← View.now
    let now := Int.ofNat (← Act.clock)
    let words := if p.words.isEmpty then ["."] else p.words
    -- A link that stands alone is followed unless it is described itself.
    let follow := p.has 'L' || p.has 'H' || !(p.has 'l' || p.has 'd' || p.has 'F')
    let look (path : String) : Except OsError Row :=
      match v.status follow path with
      | .ok s => .ok ⟨path, path,
          if s.kind = .directory || p.has 'L' then s else (v.status? false path).getD s⟩
      | .error e =>
        match v.status? false path with
        | some s => if p.has 'L' then .error e else .ok ⟨path, path, s⟩
        | none => .error e
    let status ← each (fun path => do
      match look path with
      | .ok _ => return 0
      | .error e => do
        complain l ("cannot access " ++ quoted path ++ ": " ++ e.reason)
        return 2) words 0
    let rows := words.filterMap fun path => (look path).toOption
    let isDirectory (r : Row) : Bool := r.status.kind = .directory && !p.has 'd'
    let files := sortRows p (rows.filter fun r => !isDirectory r)
    let directories := sortRows p (rows.filter isDirectory)
    let titled := 1 < words.length || p.has 'R'
    let first := shownRows v p now files
    let others := ((List.range directories.length).zip directories).map fun (k, r) =>
      listDirectory v p now treeDepth (k = 0 && files.isEmpty) titled r.path
    let written ← put l (first ++ String.join others)
    return max status written

def kindText (s : Status) : String :=
  match s.kind with
  | .file => if s.size = 0 then "regular empty file" else "regular file"
  | .directory => "directory"
  | .link => "symbolic link"
  | .characters => "character special file"
  | .pipe => "fifo"

def kindBits : Kind → Nat
  | .file => 0o100000
  | .directory => 0o040000
  | .link => 0o120000
  | .characters => 0o020000
  | .pipe => 0o010000

def statusField (v : View) (path : String) (s : Status) (letter : Char) : String :=
  let hex (n : Nat) : String := String.ofList (Nat.toDigits 16 n)
  let seconds := toString (s.time.fdiv Calendar.second)
  match letter with
  | 'a' => String.ofList (Nat.toDigits 8 s.mode)
  | 'A' => modeRow s
  | 'n' => path
  | 'N' => quoted path ++ match if s.kind = .link then v.linkTarget? path else none with
    | some target => " -> " ++ quoted target
    | none => ""
  | 'F' => kindText s
  | 's' => toString s.size
  | 'h' => toString s.names
  | 'u' | 'g' => "0"
  | 'U' | 'G' => "root"
  | 'x' | 'y' | 'z' | 'w' => Calendar.render "%Y-%m-%d %H:%M:%S.%N +0000" s.time
  | 'X' | 'Y' | 'Z' | 'W' => seconds
  | 'b' => toString (blocks s * 2)
  | 'B' => "512"
  | 'f' => hex (kindBits s.kind + s.mode)
  | 'o' => "4096"
  | 'i' => toString (fileNumber v s)
  | 'd' => "65024"
  | 'D' => "fe00"
  | 't' => if s.kind = .characters then "1" else "0"
  | 'T' => if s.kind = .characters then "3" else "0"
  | 'm' => "/"
  | '%' => "%"
  | _ => "?"

def statusText (v : View) (path : String) (s : Status) (escapes : Bool) : Nat → List Char → List Char
  | 0, _ => []
  | _, [] => []
  | room + 1, '%' :: rest =>
    let flags := rest.takeWhile ("-+ #0'".toList.contains ·)
    let more := rest.drop flags.length
    let digits := more.takeWhile Text.Decimal.isDigit
    let more := more.drop digits.length
    let (places, more) := match more with
      | '.' :: more =>
        let ds := more.takeWhile Text.Decimal.isDigit
        (some (Text.Decimal.value ds), more.drop ds.length)
      | more => (none, more)
    match more with
    | [] => ['%']
    | letter :: more =>
      let text := statusField v path s letter
      let text := match places with
        | some n =>
          if "XYZ".toList.contains letter then
            let part := Text.Decimal.padded 9 (s.time - s.time.fdiv Calendar.second * Calendar.second).toNat
            if n = 0 then text else text ++ "." ++ String.ofList (part.take n)
          else if "nNFA".toList.contains letter then String.ofList (text.toList.take n) else text
        | none => text
      let text := if flags.contains '#' && letter = 'a' && text ≠ "0" then "0" ++ text else text
      let width := min 1000 (Text.Decimal.value digits)
      let fill := List.replicate (width - text.length) (if flags.contains '0' then '0' else ' ')
      (if flags.contains '-' then text.toList ++ fill else fill ++ text.toList) ++
        statusText v path s escapes room more
  | room + 1, '\\' :: c :: rest =>
    if !escapes then '\\' :: statusText v path s escapes room (c :: rest)
    else
      (match c with
        | 'n' => ['\n']
        | 't' => ['\t']
        | '\\' => ['\\']
        | '"' => ['"']
        | c => [c]) ++ statusText v path s escapes room rest
  | room + 1, c :: rest => c :: statusText v path s escapes room rest

def wholeStatus (v : View) (path : String) (s : Status) : String :=
  let time (title : String) : String := title ++ statusField v path s 'y' ++ "\n"
  let name := match if s.kind = .link then v.linkTarget? path else none with
    | some target => path ++ " -> " ++ target
    | none => path
  "  File: " ++ name ++ "\n  Size: " ++ padRight 10 (toString s.size) ++ "\tBlocks: " ++
    padRight 10 (toString (blocks s * 2)) ++ " IO Block: " ++ padRight 6 "4096" ++ " " ++ kindText s ++
    "\nDevice: 254,0\tInode: " ++ padRight 11 (toString (fileNumber v s)) ++ " Links: " ++
    (if s.kind = .characters then padRight 5 (toString s.names) ++ " Device type: 1,3" else toString s.names) ++
    "\nAccess: (" ++ Permission.digits s.mode ++ "/" ++ modeRow s ++
    ")  Uid: (    0/    root)   Gid: (    0/    root)\n" ++
    time "Access: " ++ time "Modify: " ++ time "Change: " ++ time " Birth: "

def stat : Program := fun l =>
  withOptions { letters := "Lfc:tp:", long := [("dereference", 'L'), ("file-system", 'f'),
    ("format", 'c'), ("terse", 't'), ("printf", 'p')] } 1 l fun p => do
    if p.words.isEmpty then return ← misused l "missing operand" 1
    let v ← View.now
    each (fun path => do
      let found : Except OsError Status := if path = "-" then
          match v.state.statusOfDescriptor? v.self 0 with
          | some s => .ok s
          | none => .error .badDescriptor
        else v.status (p.has 'L') path
      match found with
      | .error e => do
        complain l ("cannot statx " ++ quoted path ++ ": " ++ e.reason)
        return 1
      | .ok s =>
        match p.value? 'p', p.value? 'c' with
        | some form, _ => put l (String.ofList (statusText v path s true (form.length + 1) form.toList))
        | none, some form =>
          put l (String.ofList (statusText v path s false (form.length + 1) form.toList) ++ "\n")
        | none, none => put l (wholeStatus v path s)) p.words 0

def sizesWithin (v : View) (p : Parsed) : Nat → Found → List (Nat × Found)
  | 0, _ => []
  | room + 1, f =>
    let own := if p.has 'b' then f.status.size else blocks f.status
    if f.status.kind ≠ .directory then [(own, f)]
    else
      let inner := (v.names f.path).flatMap fun name =>
        match v.status? false (below f.path name) with
        | some status => sizesWithin v p room ⟨below f.path name, f.depth + 1, status⟩
        | none => []
      let direct := inner.filter (·.2.depth = f.depth + 1)
      inner ++ [(direct.foldl (fun n r => n + r.1) own, f)]

def du : Program := fun l =>
  withOptions { letters := "abcd:hkmsSx", long := [("all", 'a'), ("bytes", 'b'), ("total", 'c'),
    ("max-depth", 'd'), ("human-readable", 'h'), ("summarize", 's')] } 1 l fun p => do
    let v ← View.now
    let words := if p.words.isEmpty then ["."] else p.words
    let shown (n : Nat) : String :=
      if p.has 'h' then humanSize (if p.has 'b' then n else n * 1024)
      else if p.has 'm' then toString ((n + 1023) / 1024) else toString n
    let deepest := if p.has 's' then some 0 else (p.value? 'd').bind number?
    each (fun path => do
      match v.status false path with
      | .error e => do
        complain l ("cannot access " ++ quoted path ++ ": " ++ e.reason)
        return 1
      | .ok status =>
        let rows := (sizesWithin v p treeDepth ⟨path, 0, status⟩).filter fun r =>
          (r.2.depth = 0 || p.has 'a' || r.2.status.kind = .directory) && deepest.all (r.2.depth ≤ ·)
        put l (String.join (rows.map fun r => shown r.1 ++ "\t" ++ r.2.path ++ "\n"))) words 0

def which : Program := fun l => do
  let isAll := l.words.contains "-a"
  let names := l.words.filter fun w => !w.startsWith "-"
  let v ← View.now
  let here := ((v.state.entry? v.self).map (·.directory)).getD []
  let searchPath := (l.environment.lookup "PATH").getD ""
  if names.isEmpty then return 1
  each (fun name => do
    let entries := if isAll then Image.splitColon searchPath else [searchPath]
    let found := entries.filterMap fun entry => Image.locate v.state.files here entry name
    let written ← put l (String.join (found.map (· ++ "\n")))
    return if found.isEmpty then 1 else written) names 0

end Converge.Tool
