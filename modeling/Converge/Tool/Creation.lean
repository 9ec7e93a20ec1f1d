import Converge.Tool.Stream
import Converge.Tool.Tree

set_option autoImplicit false

namespace Converge.Tool

open Converge.Process

def makeOne (l : Launch) (p : Parsed) (verb : String) (mode? : Option Nat) (path : String) : Act Nat := do
  let done ← changing l (fun e => "cannot create directory " ++ quoted path ++ ": " ++ e.reason)
    fun self s =>
      match s.makeDirectory self path 0o777 with
      | .error e => .error e
      | .ok s => match mode? with
        | some mode => s.changeMode self path fun _ _ => mode
        | none => .ok s
  if done = 0 && p.has 'v' then
    let _ ← put l (l.name ++ ": " ++ verb ++ " directory " ++ quoted path ++ "\n")
  return done

def prefixes (path : String) : List String :=
  let cs := path.toList
  let ends := (List.range cs.length).filter fun k =>
    k ≠ 0 && cs[k]? == some '/' && cs[k - 1]? ≠ some '/' && (cs.drop k).any (· ≠ '/')
  ends.map (fun k => String.ofList (cs.take k)) ++ [path]

def makeUpTo (l : Launch) (p : Parsed) (verb : String) (mode? : Option Nat) : List String → Act Nat
  | [] => return 0
  | path :: rest => do
    let v ← View.now
    match v.status true path with
    | .ok status =>
      if status.kind = .directory then makeUpTo l p verb mode? rest
      else do
        complain l ("cannot create directory " ++ quoted path ++
          if rest.isEmpty then ": File exists" else ": Not a directory")
        return 1
    | .error _ => do
      match ← makeOne l p verb (if rest.isEmpty then mode? else none) path with
      | 0 => makeUpTo l p verb mode? rest
      | n => return n

def mkdir : Program := fun l =>
  withOptions { letters := "pvm:Z", long := [("parents", 'p'), ("verbose", 'v'), ("mode", 'm')] } 1 l
    fun p => do
      let v ← View.now
      let mode? := p.value? 'm'
      let bits? := mode?.bind fun m => Permission.applied true v.mask 0o777 m
      if p.words.isEmpty then misused l "missing operand" 1
      else if mode?.isSome && bits?.isNone then do
        complain l ("invalid mode " ++ quoted (mode?.getD ""))
        return 1
      else
        each (fun path => if p.has 'p' then makeUpTo l p "created" bits? (prefixes path)
          else makeOne l p "created" bits? path)
          p.words 0

def nameChars : List Char :=
  "ABCDEFGHIJKLMNOPQRSTUVWXYZabcdefghijklmnopqrstuvwxyz0123456789".toList

def madeUp : Nat → Nat → List Char
  | 0, _ => []
  | width + 1, n => nameChars[n % 62]?.getD 'x' :: madeUp width (n / 62 + n % 62 * 7919)

def freePath (v : View) (front : List Char) (width : Nat) (back : String) : Nat → Nat → String
  | 0, n => String.ofList (front ++ madeUp width n) ++ back
  | room + 1, n =>
    let path := String.ofList (front ++ madeUp width n) ++ back
    if (v.status? false path).isSome then freePath v front width back room (n + 7919) else path

def mktemp : Program := fun l =>
  withOptions { letters := "dqutp:s:", long := [("directory", 'd'), ("quiet", 'q'), ("dry-run", 'u'),
    ("tmpdir", 'p'), ("suffix", 's')] } 1 l fun p => do
    let v ← View.now
    let ending := (p.value? 's').getD ""
    let temporary := match l.environment.lookup "TMPDIR" with
      | some d => if d = "" then "/tmp" else d
      | none => "/tmp"
    let above? : Option String := match p.value? 'p', p.words with
      | some d, _ => some (if d = "" then temporary else d)
      | none, [] => some temporary
      | none, _ => if p.has 't' then some temporary else none
    match p.words with
    | _ :: _ :: _ => misused l "too many templates" 1
    | words => do
      let template := words.headD "tmp.XXXXXXXXXX"
      let cs := template.toList
      -- Without an ending of its own the last run of signs may stand before other characters.
      let behind := if p.has 's' then [] else (cs.reverse.takeWhile (· ≠ 'X')).reverse
      let body := cs.take (cs.length - behind.length)
      let width := (body.reverse.takeWhile (· == 'X')).length
      let back := String.ofList behind ++ ending
      let refuse (m : String) : Act Nat := do
        unless p.has 'q' do complain l m
        return 1
      if width < 3 then return ← refuse ("too few X's in template " ++ quoted template)
      let shown := match above? with
        | some d => below d template
        | none => template
      let front := (match above? with
        | some d => (below d "").toList
        | none => []) ++ body.take (body.length - width)
      let now ← Act.clock
      let path := freePath v front width back 1000 (now / 1000 + v.self * 104729 + v.state.next)
      if p.has 'u' then put l (path ++ "\n")
      else
        let made ← Act.change fun self s =>
          if p.has 'd' then s.makeDirectory self path 0o700
          else match s.openTarget self path { writes := true, creates := true, excludes := true } with
            | .ok (_, s) => s.changeMode self path fun _ _ => 0o600
            | .error e => .error e
        match made with
        | .ok () => put l (path ++ "\n")
        | .error e =>
          refuse ("failed to create " ++ (if p.has 'd' then "directory" else "file") ++ " via template " ++
            quoted (shown ++ ending) ++ ": " ++ e.reason)

def sizeAfter (sign : Option Char) (n before : Nat) : Nat :=
  match sign with
  | some '+' => before + n
  | some '-' => before - n
  | some '<' => min before n
  | some '>' => max before n
  | some '/' => if n = 0 then before else before / n * n
  | some '%' => if n = 0 then before else (before + n - 1) / n * n
  | _ => n

def largestSize : Nat := 4000000

def truncate : Program := fun l =>
  withOptions { letters := "cos:r:", long := [("no-create", 'c'), ("size", 's'), ("reference", 'r')] } 1 l
    fun p => do
      let v ← View.now
      let refuse (m : String) : Act Nat := do
        complain l m
        return 1
      match p.value? 's', p.value? 'r' with
      | none, none => misused l "you must specify either '--size' or '--reference'" 1
      | size, reference =>
        let text := ((size.getD "+0").trimAscii).toString
        let sign := text.toList.head?.filter ("+-<>/%".toList.contains ·)
        match amount? (if sign.isSome then String.ofList (text.toList.drop 1) else text) with
        | none => refuse ("Invalid number: " ++ quoted (size.getD ""))
        | some n =>
          if p.words.isEmpty then misused l "missing file operand" 1
          else
            match reference.map (v.status true) with
            | some (.error e) => refuse ("cannot stat " ++ quoted (reference.getD "") ++ ": " ++ e.reason)
            | other =>
              let base : Option Nat := match other with
                | some (.ok status) => some status.size
                | _ => none
              each (fun path => do
                if p.has 'c' && (v.status? true path).isNone then return 0
                changing l (fun e => "cannot open " ++ quoted path ++ " for writing: " ++ e.reason)
                  fun self s =>
                    match s.openTarget self path { writes := true, creates := true } with
                    | .error e => .error e
                    | .ok (.file place, s) =>
                      let content := s.content place
                      let wanted := min largestSize (sizeAfter sign n (base.getD content.length))
                      .ok (s.settle.setContent place
                        (content.take wanted ++ List.replicate (wanted - content.length) 0))
                    | .ok (_, s) => .ok s) p.words 0

end Converge.Tool
