import Converge.Tool.Calendar
import Converge.Tool.Tree

set_option autoImplicit false

namespace Converge.Tool

open Converge.Process

def stampPath (s : State) (self : Nat) (path : String) (time : Int) (creates follow : Bool) :
    Except OsError State :=
  match s.lookUp self follow path with
  | .ok (place, _) => .ok ((s.settle.places place).foldl (fun s place => s.touch place time) s.settle)
  | .error e =>
    if !creates then if e = .notFound then .ok s else .error e
    else
      match s.openTarget self path { writes := true, creates := true } with
      | .ok (.file place, s) => .ok (s.settle.touch place time)
      | .ok (_, s) => .ok s
      | .error e => .error (if e = .isDirectory && path.endsWith "/" then .notFound else e)

def withoutArguments (names : List String) (ws : List String) : List String :=
  ws.map fun w => (names.find? fun name => w.startsWith (name ++ "=")).getD w

def touch : Program := fun l =>
  withOptions { letters := "acmfhd:r:t:", long := [("no-create", 'c'), ("date", 'd'), ("reference", 'r'),
    ("no-dereference", 'h')] } 1 { l with words := withoutArguments ["--time"] l.words } fun p => do
    let now ← Act.clock
    let v ← View.now
    let present := Int.ofNat now
    let refuse (m : String) : Act Nat := do
      complain l m
      return 1
    let base : Except String Int := match p.value? 'r' with
      | some path =>
        match v.status true path with
        | .ok status => .ok status.time
        | .error e => .error ("failed to get attributes of " ++ quoted path ++ ": " ++ e.reason)
      | none => .ok present
    let time : Except String Int := match base, p.value? 't', p.value? 'd' with
      | .error m, _, _ => .error m
      | .ok _, some t, _ => match Calendar.stamp? present t with
        | some time => .ok time
        | none => .error ("invalid date format " ++ quoted t)
      | .ok start, none, some d => match Calendar.moment? start d with
        | some time => .ok time
        | none => .error ("invalid date format " ++ quoted d)
      | .ok time, none, none => .ok time
    match time with
    | .error m => refuse m
    | .ok time =>
      if p.words.isEmpty then misused l "missing file operand" 1
      else
        each (fun path =>
          if path = "-" then return 0
          else changing l (fun e =>
            (if path.endsWith "/" then "setting times of " else "cannot touch ") ++ quoted path ++ ": " ++
              e.reason) fun self s =>
            -- A time that is only read by others is not kept.
            if p.has 'a' && !p.has 'm' && (v.status? true path).isSome then .ok s
            else stampPath s self path time (!p.has 'c') (!p.has 'h')) p.words 0

def standardFormat (unit : String) : String :=
  match unit with
  | "hours" => "%Y-%m-%dT%H%:z"
  | "minutes" => "%Y-%m-%dT%H:%M%:z"
  | "seconds" => "%Y-%m-%dT%H:%M:%S%:z"
  | "ns" => "%Y-%m-%dT%H:%M:%S,%N%:z"
  | _ => "%Y-%m-%d"

def dateWord (w : String) : List String :=
  let after (front : String) : String := String.ofList (w.toList.drop front.length)
  let unit (s : String) : String :=
    (["hours", "minutes", "seconds", "date", "ns"].find? (·.startsWith s)).getD s
  if w.startsWith "--iso-8601=" then ["-f+" ++ standardFormat (unit (after "--iso-8601="))]
  else if w = "--iso-8601" || w = "-I" then ["-f+%Y-%m-%d"]
  else if w.startsWith "-I" then ["-f+" ++ standardFormat (unit (after "-I"))]
  else if w.startsWith "--rfc-3339=" then
    ["-f+" ++ match unit (after "--rfc-3339=") with
      | "seconds" => "%Y-%m-%d %H:%M:%S%:z"
      | "ns" => "%Y-%m-%d %H:%M:%S.%N%:z"
      | _ => "%Y-%m-%d"]
  else if w = "-R" || w = "--rfc-email" then ["-f+%a, %d %b %Y %H:%M:%S %z"]
  else [w]

def date : Program := fun l =>
  withOptions { letters := "ud:r:s:f:", long := [("utc", 'u'), ("universal", 'u'), ("date", 'd'),
    ("reference", 'r'), ("set", 's')] } 1 { l with words := l.words.flatMap dateWord } fun p => do
    let now ← Act.clock
    let v ← View.now
    let refuse (m : String) : Act Nat := do
      complain l m
      return 1
    let format (w : String) : String := String.ofList (w.toList.drop 1)
    let given : Except String (Option String) := match p.value? 'f', p.words with
      | own, [] => .ok (own.map format)
      | own, [w] =>
        if w.startsWith "+" then .ok (some (format w))
        else if own.isSome then .ok (own.map format)
        else .error ("invalid date " ++ quoted w)
      | _, _ :: extra :: _ => .error ("extra operand " ++ quoted extra)
    match given with
    | .error m => if m.startsWith "extra" then misused l m 1 else refuse m
    | .ok form => do
      let form := form.getD "%a %b %e %H:%M:%S %Z %Y"
      match p.value? 'r', p.value? 'd' with
      | some path, _ =>
        match v.status true path with
        | .ok status => put l (Calendar.render form status.time ++ "\n")
        | .error e => refuse (path ++ ": " ++ e.reason)
      | none, some d =>
        match Calendar.moment? (Int.ofNat now) d with
        | some time => put l (Calendar.render form time ++ "\n")
        | none => refuse ("invalid date " ++ quoted d)
      | none, none => put l (Calendar.render form (Int.ofNat now) ++ "\n")

end Converge.Tool
