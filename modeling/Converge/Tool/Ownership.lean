import Converge.Tool.Tree
import Converge.Tool.Words

set_option autoImplicit false

namespace Converge.Tool

open Converge.Process

def modeNote (path : String) (before after : Nat) : String :=
  let shown (mode : Nat) : String := Permission.digits mode ++ " (" ++ Permission.row mode ++ ")"
  "mode of " ++ quoted path ++
    if before = after then " retained as " ++ shown after
    else " changed from " ++ shown before ++ " to " ++ shown after

def modeOne (l : Launch) (p : Parsed) (change : Bool → Nat → Nat) (path : String) (status : Status) :
    Act Nat := do
  let after := change (status.kind = .directory) status.mode
  let done ← changing l (fun e => "changing permissions of " ++ quoted path ++ ": " ++ e.reason)
    fun self s => s.changeMode self path fun _ _ => after
  if done = 0 && (p.has 'v' || (p.has 'c' && after ≠ status.mode)) then
    let _ ← put l (modeNote path status.mode after ++ "\n")
  return done

def modeEach (l : Launch) (p : Parsed) (change : Bool → Nat → Nat) (path : String) : Act Nat := do
  let v ← View.now
  match v.status true path with
  | .error e => do
    if !p.has 'f' then
      if (v.status? false path).isSome && e = .notFound then
        complain l ("cannot operate on dangling symlink " ++ quoted path)
      else complain l ("cannot access " ++ quoted path ++ ": " ++ e.reason)
    return 1
  | .ok status =>
    if p.has 'R' then
      each (fun (f : Found) => modeOne l p change f.path f.status)
        ((wholeTree v path status).filter (·.status.kind ≠ .link)) 0
    else modeOne l p change path status

def chmod : Program := fun l => do
  -- A mode may look like an option.
  let isMode (w : String) : Bool := match w.toList with
    | '-' :: c :: cs => (c :: cs).all ("rwxXstugo0123456789,+-=a".toList.contains ·)
    | _ => false
  let front := l.words.takeWhile fun w => !isMode w
  let own := (l.words.drop front.length).head?
  let words := if own.isSome then front ++ l.words.drop (front.length + 1) else l.words
  withOptions { letters := "Rvcfr:", long := [("recursive", 'R'), ("verbose", 'v'), ("changes", 'c'),
    ("silent", 'f'), ("quiet", 'f'), ("reference", 'r')] } 1 { l with words := words } fun p => do
    let v ← View.now
    let given := own.isSome || p.has 'r'
    match if given then own.getD "" :: p.words else p.words with
    | [] => misused l "missing operand" 1
    | [mode] => misused l (if given then "missing operand" else "missing operand after " ++ quoted mode) 1
    | mode :: paths =>
      match p.value? 'r' with
      | some path =>
        match v.status true path with
        | .error e => do
          complain l ("failed to get attributes of " ++ quoted path ++ ": " ++ e.reason)
          return 1
        | .ok status => each (modeEach l p fun _ _ => status.mode) paths 0
      | none =>
        match Permission.applied false v.mask 0 mode with
        | none => misused l ("invalid mode: " ++ quoted mode) 1
        | some _ =>
          each (modeEach l p fun isDirectory before =>
            (Permission.applied isDirectory v.mask before mode).getD before) paths 0

-- Changes the owner. Everything belongs to one owner all the time, so that only what is asked for
-- is looked at.
def owning (isGroup : Bool) : Program := fun l =>
  withOptions { letters := "RvcfhHLPr:", long := [("recursive", 'R'), ("verbose", 'v'),
    ("changes", 'c'), ("silent", 'f'), ("quiet", 'f'), ("no-dereference", 'h'),
    ("reference", 'r')] } 1 l fun p => do
    let all ← accounts
    let isUser (name : String) : Bool := (number? name).isSome || all.any (·.name == name)
    let isGroupName (name : String) : Bool :=
      (number? name).isSome || name = "nogroup" || all.any fun a => groupName all a.group = name
    let fault? (w : String) : Option String :=
      if isGroup then if w = "" || isGroupName w then none else some ("invalid group: " ++ quoted w)
      else
        let user := String.ofList (w.toList.takeWhile (· ≠ ':'))
        let group := String.ofList (w.toList.drop (user.length + 1))
        if user ≠ "" && !isUser user then some ("invalid user: " ++ quoted w)
        else if group ≠ "" && !isGroupName group then some ("invalid group: " ++ quoted w)
        else none
    match if p.has 'r' then "" :: p.words else p.words with
    | [] => misused l "missing operand" 1
    | [w] => misused l (if p.has 'r' then "missing operand" else "missing operand after " ++ quoted w) 1
    | w :: paths =>
      match fault? w with
      | some m => do
        complain l m
        return 1
      | none =>
        each (fun path => do
          let v ← View.now
          match v.status (!p.has 'h') path with
          | .ok _ => return 0
          | .error e => do
            if !p.has 'f' then
              complain l ((if (v.status? false path).isSome then "cannot dereference " else "cannot access ") ++
                quoted path ++ ": " ++ e.reason)
            return 1) paths 0

end Converge.Tool
