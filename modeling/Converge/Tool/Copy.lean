import Converge.Tool.Creation
import Converge.Tool.Link

set_option autoImplicit false

namespace Converge.Tool

open Converge.Process

def isSameThing (v : View) (a b : Status) : Bool :=
  match a.place, b.place with
  | some x, some y => x = y || (v.state.places x).contains y
  | _, _ => false

/-- What a copy keeps and how it deals with what is there already. -/
structure Copying where
  recursive : Bool
  keepsLinks : Bool
  keepsTimes : Bool
  force : Bool
  verbose : Bool
  -- The mode of the copies, if it is not that of what is copied.
  mode : Option Nat := none

def Copying.say (c : Copying) (l : Launch) (source goal : String) : Act Unit := do
  if c.verbose then
    let _ ← put l (quoted source ++ " -> " ++ quoted goal ++ "\n")

def copyContent (l : Launch) (c : Copying) (source goal : String) (status : Status) : Act Nat := do
  let isNew := (← View.now).status? true goal |>.isNone
  match ← Act.openAt 3 source .reading false with
  | .error e => do
    complain l ("cannot open " ++ quoted source ++ " for reading: " ++ e.reason)
    return 1
  | .ok input => do
    match ← Act.openAt 3 goal .writing false with
    | .error e => do
      Act.close input
      complain l ("cannot create regular file " ++ quoted goal ++ ": " ++
        (if e = .isDirectory && goal.endsWith "/" then OsError.notDirectory else e).reason)
      return 1
    | .ok output => do
      let octets ← Act.readAll input
      let written ← Act.write output (octets.toOption.getD [])
      Act.close input
      Act.close output
      let done ← Act.change fun self s =>
        match s.status? self true goal with
        | none => .ok s
        | some made =>
          if made.kind ≠ .file then .ok s
          else
            let mask := ((s.entry? self).map (·.umask)).getD 0
            let wanted := c.mode.getD (if c.keepsTimes then status.mode
              else if isNew then status.mode &&& 0o777 &&& (0o7777 ^^^ mask) else made.mode)
            match s.changeMode self goal fun _ _ => wanted with
            | .error e => .error e
            | .ok s =>
              match made.place, c.keepsTimes with
              | some place, true => .ok (s.touch place status.time)
              | _, _ => .ok s
      match written, done with
      | .error e, _ => do
        complain l ("error writing " ++ quoted goal ++ ": " ++ e.reason)
        return 1
      | _, _ => return 0

def copyOne (l : Launch) (p : Parsed) (c : Copying) : Nat → String → String → Act Nat
  | 0, _, _ => return 1
  | room + 1, source, goal => do
    let v ← View.now
    let refuse (m : String) : Act Nat := do
      complain l m
      return 1
    match v.status (!c.keepsLinks) source with
    | .error e => refuse ("cannot stat " ++ quoted source ++ ": " ++ e.reason)
    | .ok status =>
      let old := v.status? true goal
      let own := v.status? false goal
      if status.kind = .directory then
        if !c.recursive then refuse ("-r not specified; omitting directory " ++ quoted source)
        else if old.any (·.kind ≠ .directory) then
          refuse ("cannot overwrite non-directory " ++ quoted goal ++ " with directory " ++ quoted source)
        else
          let isInside := match status.place, (resolved v .none goal).toOption with
            | some a, some b => a.isPrefixOf b
            | _, _ => false
          if isInside then
            refuse ("cannot copy a directory, " ++ quoted source ++ ", into itself, " ++ quoted goal)
          else
            let names := v.names source
            let made ← if old.isSome then pure (.ok ()) else
              Act.change fun self s => (s.makeDirectory self goal 0o777).bind fun s =>
                s.changeMode self goal fun _ mode => if c.keepsTimes then status.mode
                  else mode &&& (status.mode ||| 0o700)
            match made with
            | .error e => refuse ("cannot create directory " ++ quoted goal ++ ": " ++ OsError.reason e)
            | .ok () => do
              if old.isNone then c.say l source goal
              let done ← each (fun name => copyOne l p c room (below source name) (below goal name)) names 0
              if c.keepsTimes then
                let _ ← Act.change fun self s => match s.lookUp self true goal with
                  | .ok (place, _) => .ok (s.touch place status.time)
                  | .error _ => .ok s
              return done
      else if old.any (·.kind = .directory) then
        refuse ("cannot overwrite directory " ++ quoted goal ++ " with non-directory")
      else
        let isSame := (if c.keepsLinks || p.has 's' then own else old).any (isSameThing v status)
        if p.has 'n' && own.isSome then return 0
        else if p.has 'u' && old.any fun o => status.time ≤ o.time then return 0
        else if isSame && !(p.has 'l' && c.force) then
          if p.has 'l' then return 0
          else refuse (quoted source ++ " and " ++ quoted goal ++ " are the same file")
        else
          let asks := own.isSome && p.last? ['i', 'n'] = some 'i'
          let goesOn ← if asks then confirmed l ("overwrite " ++ quoted goal) else pure true
          if !goesOn then return 1
          else if p.has 's' || p.has 'l' || status.kind = .link then
            let text := if status.kind = .link then (v.linkTarget? source).getD "" else source
            let isHard := p.has 'l' && status.kind ≠ .link
            let made ← Act.change fun self s =>
              let s := if c.force || status.kind = .link then ((s.unlink self goal).toOption).getD s else s
              if isHard then s.link self false source goal else s.symlink self text goal
            match made with
            | .error e =>
              refuse ("cannot create " ++ (if isHard then "hard" else "symbolic") ++ " link " ++ quoted goal ++
                (if isHard then " to " ++ quoted source else "") ++ ": " ++ e.reason)
            | .ok () => do
              c.say l source goal
              return 0
          else if own.any (·.kind = .link) && old.isNone then
            refuse ("not writing through dangling symlink " ++ quoted goal)
          else do
            c.say l source goal
            copyContent l c source goal status

-- The options that `cp` has by name, with those that take an argument behind a sign cut down.
def copyWords (ws : List String) : List String :=
  withoutArgument ["--preserve", "--no-preserve", "--reflink", "--sparse", "--backup", "--update"] ws
where
  withoutArgument (names : List String) (ws : List String) : List String :=
    ws.map fun w => (names.find? fun name => w.startsWith (name ++ "=")).getD w

def cp : Program := fun l =>
  withOptions { letters := "abdfiHlLnPpRrsS:t:TuvxDAOZ", long := [("archive", 'a'), ("backup", 'b'),
    ("force", 'f'), ("interactive", 'i'), ("link", 'l'), ("dereference", 'L'), ("no-clobber", 'n'),
    ("no-dereference", 'P'), ("preserve", 'p'), ("no-preserve", 'O'), ("recursive", 'r'),
    ("reflink", 'O'), ("sparse", 'O'), ("remove-destination", 'D'), ("symbolic-link", 's'),
    ("target-directory", 't'), ("no-target-directory", 'T'), ("update", 'u'), ("verbose", 'v'),
    ("one-file-system", 'x'), ("parents", 'A')] } 1 { l with words := copyWords l.words } fun p => do
    let recursive := p.has 'r' || p.has 'R' || p.has 'a'
    let c : Copying := {
      recursive := recursive
      keepsLinks := match p.last? ['L', 'P', 'd', 'a', 'H'] with
        | some 'L' | some 'H' => false
        | some _ => true
        | none => recursive
      keepsTimes := p.has 'p' || p.has 'a'
      force := p.has 'f' || p.has 'D'
      verbose := p.has 'v' }
    if p.has 'A' then
      -- The directories of the name are made too.
      match p.words.getLast?, p.words.dropLast with
      | some directory, w :: ws =>
        each (fun path => do
          let goal := below directory path
          let _ ← each (fun d => do
            let v ← View.now
            if v.isDirectory d then return 0
            changing l (fun e => "cannot make directory " ++ quoted d ++ ": " ++ e.reason) fun self s =>
              s.makeDirectory self d 0o777) ((prefixes goal).dropLast) 0
          copyOne l p c treeDepth path goal) (w :: ws) 0
      | _, _ => withGoals l p (fun v path => v.isDirectory path) fun (a, b) => copyOne l p c treeDepth a b
    else withGoals l p (fun v path => v.isDirectory path) fun (a, b) => copyOne l p c treeDepth a b

def moveOne (l : Launch) (p : Parsed) (source goal : String) : Act Nat := do
  let v ← View.now
  let refuse (m : String) : Act Nat := do
    complain l m
    return 1
  match v.status false source with
  | .error e => refuse ("cannot stat " ++ quoted source ++ ": " ++ e.reason)
  | .ok status =>
    let old := v.status? false goal
    let isDirectory := status.kind = .directory
    let fromPlace := status.place
    let toPlace := (resolved v .none goal).toOption
    let isSame := old.any (isSameThing v status)
    if isSame && !isDirectory then refuse (quoted source ++ " and " ++ quoted goal ++ " are the same file")
    else if p.last? ['n', 'f', 'i'] = some 'n' && old.isSome then return 0
    else if p.has 'u' && old.any fun o => o.kind ≠ .directory && status.time ≤ o.time then return 0
    else if isDirectory && old.any (·.kind ≠ .directory) then
      refuse ("cannot overwrite non-directory " ++ quoted goal ++ " with directory " ++ quoted source)
    else if !isDirectory && old.any (·.kind = .directory) then
      refuse ("cannot overwrite directory " ++ quoted goal ++ " with non-directory")
    else if isDirectory && (match fromPlace, toPlace with
        | some a, some b => a.isPrefixOf b
        | _, _ => false) then
      refuse ("cannot move " ++ quoted source ++ " to a subdirectory of itself, " ++ quoted goal)
    else
      let asks := old.isSome && p.last? ['n', 'f', 'i'] = some 'i'
      let goesOn ← if asks then confirmed l ("overwrite " ++ quoted goal) else pure true
      if !goesOn then return 1
      let kept := goal ++ (p.value? 'S').getD "~"
      let moved ← Act.change fun self s =>
        let s := if p.has 'b' && old.isSome then ((s.rename self goal kept).toOption).getD s else s
        s.rename self source goal
      match moved with
      | .ok () =>
        if p.has 'v' then
          put l ("renamed " ++ quoted source ++ " -> " ++ quoted goal ++
            (if p.has 'b' && old.isSome then " (backup: " ++ quoted kept ++ ")" else "") ++ "\n")
        else return 0
      | .error e => refuse ("cannot move " ++ quoted source ++ " to " ++ quoted goal ++ ": " ++ e.reason)

def mv : Program := fun l =>
  withOptions { letters := "bfinuvTt:S:Z", long := [("backup", 'b'), ("force", 'f'), ("interactive", 'i'),
    ("no-clobber", 'n'), ("update", 'u'), ("verbose", 'v'), ("no-target-directory", 'T'),
    ("target-directory", 't'), ("suffix", 'S')] } 1 { l with words := copyWords l.words } fun p =>
    withGoals l p (fun v path => v.isDirectory path) fun (a, b) => moveOne l p a b

def installOne (l : Launch) (p : Parsed) (mode : Nat) (source goal : String) : Act Nat := do
  let v ← View.now
  let refuse (m : String) : Act Nat := do
    complain l m
    return 1
  match v.status true source with
  | .error e => refuse ("cannot stat " ++ quoted source ++ ": " ++ e.reason)
  | .ok status =>
    if status.kind = .directory then refuse ("omitting directory " ++ quoted source)
    else if (v.status? false goal).any (isSameThing v status) then
      refuse (quoted source ++ " and " ++ quoted goal ++ " are the same file")
    else do
      if p.has 'D' then
        let _ ← makeUpTo l p "creating" none (prefixes goal).dropLast
      let isThere := (v.status? false goal).isSome
      let _ ← Act.change fun self s => s.unlink self goal
      if p.has 'v' && isThere then
        let _ ← put l ("removed " ++ quoted goal ++ "\n")
      let c : Copying := { recursive := false, keepsLinks := false, keepsTimes := p.has 'p', force := true
                           verbose := p.has 'v', mode := some mode }
      let parent := directoryName goal
      if p.has 'D' || v.isDirectory parent then c.say l source goal
      copyContent l c source goal status

def install : Program := fun l =>
  withOptions { letters := "bcCdDg:m:o:pst:TvS:", long := [("directory", 'd'), ("mode", 'm'),
    ("owner", 'o'), ("group", 'g'), ("preserve-timestamps", 'p'), ("strip", 's'),
    ("target-directory", 't'), ("no-target-directory", 'T'), ("verbose", 'v')] } 1 l fun p => do
    let mode := (p.value? 'm').getD "755"
    match Permission.applied false 0 0 mode with
    | none => do
      complain l ("invalid mode " ++ quoted mode)
      return 1
    | some bits =>
      if p.has 'd' then
        if p.words.isEmpty then misused l "missing file operand" 1
        else
          each (fun path => do
            let parsed : Parsed := { options := if p.has 'v' then [('v', "")] else [] }
            makeUpTo l parsed "creating" (some bits) (prefixes path)) p.words 0
      else withGoals l p (fun v path => v.isDirectory path) fun (a, b) => installOne l p bits a b

end Converge.Tool
