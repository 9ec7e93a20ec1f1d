import Converge.Tool.Removal

set_option autoImplicit false

namespace Converge.Tool

open Converge.Process
open Converge.Text

-- Where several things go: the words that are to be handled, each with the path for it.
def goals (p : Parsed) (v : View) (isInto : String → Bool) :
    Except (String × Bool) (List (String × String)) :=
  let into (directory : String) (ws : List String) : List (String × String) :=
    ws.map fun w => (w, below directory (baseName w))
  match p.value? 't' with
  | some directory =>
    if p.words.isEmpty then .error ("missing file operand", true)
    else match v.status true directory with
      | .error e => .error ("target directory " ++ quoted directory ++ ": " ++ e.reason, false)
      | .ok s =>
        if s.kind = .directory then .ok (into directory p.words)
        else .error ("target directory " ++ quoted directory ++ ": Not a directory", false)
  | none =>
    match p.words with
    | [] => .error ("missing file operand", true)
    | [w] => .error ("missing destination file operand after " ++ quoted w, true)
    | [a, b] => if p.has 'T' || !isInto b then .ok [(a, b)] else .ok (into b [a])
    | words =>
      let last := words.getLast?.getD ""
      if p.has 'T' then .error ("extra operand " ++ quoted ((words.drop 2).headD ""), true)
      else match v.status true last with
        | .error e => .error ("target " ++ quoted last ++ ": " ++ e.reason, false)
        | .ok s =>
          if s.kind = .directory then .ok (into last words.dropLast)
          else .error ("target " ++ quoted last ++ ": Not a directory", false)

def withGoals (l : Launch) (p : Parsed) (isInto : View → String → Bool)
    (work : String × String → Act Nat) : Act Nat := do
  let v ← View.now
  match goals p v (isInto v) with
  | .ok all => each work all 0
  | .error (m, true) => misused l m 1
  | .error (m, false) => do
    complain l m
    return 1

def relativePath (directory place : Location) : String :=
  let rec common : Location → Location → Nat
    | a :: as, b :: bs => if a = b then common as bs + 1 else 0
    | _, _ => 0
  let shared := common directory place
  let steps := List.replicate (directory.length - shared) ".." ++
    (place.drop shared).map Raw.ofName
  if steps.isEmpty then "." else String.intercalate "/" steps

/-- How much of a path has to be there. -/
inductive Presence where
  | all
  | allButLast
  | none
  deriving DecidableEq

def resolvedWithin (v : View) (presence : Presence) : Nat → String → Except OsError Location
  | 0, _ => .error .tooManyLinks
  | room + 1, path =>
    match v.state.target v.self true path with
    | .ok (.present place _) => .ok place
    | .ok (.absent place) | .ok (.absentDirectory place) =>
      if presence = .all then .error .notFound else .ok place
    | .ok (.notDirectory place) => if presence = .none then .ok place else .error .notDirectory
    | .error e =>
      if presence ≠ .none || path = "" then .error e
      else
        let name := baseName path
        match resolvedWithin v presence room (directoryName path) with
        | .ok place =>
          .ok (if name = "." then place else if name = ".." then place.dropLast else place ++ [Raw.toName name])
        | .error e => .error e

def resolved (v : View) (presence : Presence) (path : String) : Except OsError Location :=
  resolvedWithin v presence (path.length + 1) path

def linkOne (l : Launch) (p : Parsed) (source goal : String) : Act Nat := do
  let v ← View.now
  let symbolic := p.has 's'
  let refuse (m : String) : Act Nat := do
    complain l m
    return 1
  let old := v.status? false goal
  let isSame := match v.status? (symbolic || p.has 'L') source, old with
    | some a, some b => a.place = b.place || (a.place.any fun x => b.place.any fun y =>
        (v.state.places x).contains y)
    | _, _ => false
  match if symbolic then .ok none else (v.status (p.has 'L') source).map some with
  | .error e => refuse ("failed to access " ++ quoted source ++ ": " ++ OsError.reason e)
  | .ok found =>
    if (found : Option Status).any (·.kind = .directory) then
      refuse (source ++ ": hard link not allowed for directory")
    else if old.any (·.kind = .directory) && p.has 'f' then
      refuse (goal ++ ": cannot overwrite directory")
    else if old.isSome && p.has 'f' && isSame && (symbolic || source = goal) then
      refuse (quoted source ++ " and " ++ quoted goal ++ " are the same file")
    else
      let asks := old.isSome && p.last? ['i', 'f'] = some 'i'
      let replaces ← if asks then confirmed l ("replace " ++ quoted goal) else pure (p.has 'f')
      if asks && !replaces then return 1
      let text := if symbolic && p.has 'r' then
          match resolved v .none (directoryName goal), resolved v .none source with
          | .ok directory, .ok place => relativePath directory place
          | _, _ => source
        else source
      let made ← Act.change fun self s =>
        let s := if replaces then ((s.unlink self goal).toOption).getD s else s
        if symbolic then
          if text = "" then .error .notFound else s.symlink self text goal
        else s.link self (p.has 'L') source goal
      match made with
      | .ok () =>
        if p.has 'v' then put l (quoted goal ++ (if symbolic then " -> " else " => ") ++ quoted text ++ "\n")
        else return 0
      | .error e =>
        let kind := if symbolic then "symbolic" else "hard"
        let tail := if symbolic then if text = "" then " -> " ++ quoted text else ""
          else if e = .exists_ then "" else " => " ++ quoted source
        refuse ("failed to create " ++ kind ++ " link " ++ quoted goal ++ tail ++ ": " ++ e.reason)

def ln : Program := fun l =>
  withOptions { letters := "sfinvTt:rLPbFdS:", long := [("symbolic", 's'), ("force", 'f'),
    ("interactive", 'i'), ("no-dereference", 'n'), ("verbose", 'v'), ("no-target-directory", 'T'),
    ("target-directory", 't'), ("relative", 'r'), ("logical", 'L'), ("physical", 'P')] } 1 l fun p => do
    let isInto (v : View) (path : String) : Bool :=
      v.isDirectory path && !(p.has 'n' && (v.status? false path).any (·.kind = .link))
    match p.words, p.has 'T' with
    | [w], true => misused l ("missing destination file operand after " ++ quoted w) 1
    | [w], false =>
      if p.has 't' then withGoals l p isInto fun (a, b) => linkOne l p a b
      else linkOne l p w (below "." (baseName w))
    | _, _ => withGoals l p isInto fun (a, b) => linkOne l p a b

def readlink : Program := fun l =>
  withOptions { letters := "femnqsvz", long := [("canonicalize", 'f'), ("canonicalize-existing", 'e'),
    ("canonicalize-missing", 'm'), ("no-newline", 'n'), ("quiet", 'q'), ("silent", 's'),
    ("verbose", 'v'), ("zero", 'z')] } 1 l fun p => do
    if p.words.isEmpty then return ← misused l "missing operand" 1
    if p.has 'n' && 1 < p.words.length then
      complain l "ignoring --no-newline with multiple arguments"
    let ends := if p.has 'n' && p.words.length = 1 then "" else if p.has 'z' then "\x00" else "\n"
    let v ← View.now
    each (fun path => do
      let answer : Except OsError String := match p.last? ['f', 'e', 'm'] with
        | some c =>
          (resolved v (if c = 'f' then .allButLast else if c = 'e' then .all else .none) path).map
            fun place => pathOf place
        | none => match v.status false path with
          | .error e => .error e
          | .ok _ => match v.linkTarget? path with
            | some target => .ok target
            | none => .error .invalid
      match answer with
      | .ok text => put l (text ++ ends)
      | .error e => do
        if p.last? ['q', 's', 'v'] = some 'v' then complain l (path ++ ": " ++ e.reason)
        return 1) p.words 0

def plainPlace (directory : Location) (path : String) : Location :=
  (path.splitOn "/").foldl (fun place step =>
    if step = "" || step = "." then place
    else if step = ".." then place.dropLast
    else place ++ [Raw.toName step]) (if path.startsWith "/" then [] else directory)

def realpath : Program := fun l =>
  withOptions { letters := "emqszLPR:B:", long := [("canonicalize-existing", 'e'),
    ("canonicalize-missing", 'm'), ("quiet", 'q'), ("strip", 's'), ("no-symlinks", 's'), ("zero", 'z'),
    ("logical", 'L'), ("physical", 'P'), ("relative-to", 'R'), ("relative-base", 'B')] } 1 l fun p => do
    if p.words.isEmpty then return ← misused l "missing operand" 1
    let v ← View.now
    let here := ((v.state.entry? v.self).map (·.directory)).getD []
    let presence : Presence := match p.last? ['e', 'm'] with
      | some 'e' => .all
      | some _ => .none
      | none => .allButLast
    let placeOf (path : String) : Except OsError Location :=
      if p.has 's' then
        match if presence = .none then .ok [] else resolved v presence path with
        | .ok _ => .ok (plainPlace here path)
        | .error e => .error e
      else resolved v presence path
    each (fun path => do
      match placeOf path with
      | .error e => do
        if !p.has 'q' then complain l ((if path = "" then quoted path else path) ++ ": " ++ e.reason)
        return 1
      | .ok place =>
        let base := (p.value? 'B').bind fun b => (placeOf b).toOption
        let origin := ((p.value? 'R').bind fun b => (placeOf b).toOption).orElse fun _ => base
        let isNear := base.all fun b => b.isPrefixOf place
        let text := match origin with
          | some o => if isNear then relativePath o place else pathOf place
          | none => pathOf place
        put l (text ++ if p.has 'z' then "\x00" else "\n")) p.words 0

end Converge.Tool
