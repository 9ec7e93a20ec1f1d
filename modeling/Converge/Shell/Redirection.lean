import Converge.Shell.Expansion

set_option autoImplicit false

namespace Converge.Shell.Redirection

open Eval
open Converge.Process

inductive Goal where
  | path (kind : RedirectKind) (path : String)
  | copy (source : Nat)
  | closed
  | content (octets : Text.Utf8.Octets)

-- A descriptor, and where it led: to nothing, or to what a copy of it leads to.
abbrev Saved := Nat × Option Nat

variable (e : Engine)

def descriptorOf (descriptor : Nat) (s : String) : Eval (List (Nat × Goal)) := do
  let sh ← get
  let digits := s.toList
  if s = "-" then return [(descriptor, .closed)]
  else if !digits.isEmpty && digits.all Read.isDigit && (digits.length = 1 || sh.isExtended) then
    return [(descriptor, .copy (Text.Decimal.value digits))]
  else if sh.isExtended && descriptor = 1 then
    return [(1, .path .output s), (2, .copy 1)]
  else if sh.isExtended then
    report (s ++ ": ambiguous redirect")
    setStatus 1
    throw Leave.error
  else fail "Syntax error: Bad fd number"

def goals : Redirect → Eval (List (Nat × Goal))
  | .mk descriptor kind target => do
    match kind with
    | .document number => do
      let sh ← get
      let body := (sh.documents.lookup number).getD []
      let s ← Expansion.text e body { isQuoted := true }
      return [(descriptor, .content (Text.Raw.toOctets s))]
    | .text => do
      let s ← Expansion.text e target { tilde := true }
      return [(descriptor, .content (Text.Raw.toOctets (s ++ "\n")))]
    | kind => do
      let s ← Expansion.text e target { tilde := true }
      match kind with
      | .duplicateInput | .duplicateOutput => descriptorOf descriptor s
      | .outputs appends =>
        return [(1, .path (if appends then .append else .output) s), (2, .copy 1)]
      | kind => return [(descriptor, .path kind s)]

def allGoals : List Redirect → Eval (List (Nat × Goal))
  | [] => return []
  | r :: rest => do
    let first ← goals e r
    return first ++ (← allGoals rest)

def refusal (extended creates : Bool) (path : String) (err : OsError) : String :=
  if extended then path ++ ": " ++ err.reason
  else
    let isMissing := err = .notFound || err = .notDirectory
    let reason := if !isMissing then err.reason
      else if creates then "Directory nonexistent" else "No such file"
    "cannot " ++ (if creates then "create " else "open ") ++ path ++ ": " ++ reason

def open_ (descriptor : Nat) (kind : RedirectKind) (path : String) : Eval Unit := do
  let sh ← get
  let state ← act Act.get
  -- With this option a file that is there must not be written over.
  let guards := kind = .output && sh.options.contains 'C'
  let isFile := (state.status? sh.self true path).any (·.kind = .file)
  if guards && isFile then
    fail (if sh.isExtended then path ++ ": cannot overwrite existing file"
      else refusal false true path .exists_)
  let manner : Manner := match kind with
    | .input => .reading
    | .append => .appending
    | .both => .both
    | _ => .writing
  match ← act (Act.openOnto descriptor path manner) with
  | .ok () => pure ()
  | .error err => fail (refusal sh.isExtended (kind ≠ .input) path err)

def turn (descriptor : Nat) : Goal → Eval Unit
  | .path kind path => open_ descriptor kind path
  | .copy source => do
    if source ≠ descriptor then
      if !(← act (Act.duplicate source descriptor)) then
        fail (toString source ++ ": Bad file descriptor")
  | .closed => act (Act.close descriptor)
  | .content octets => act (Act.documentOnto descriptor octets)

/-- Makes descriptors lead elsewhere. In the plain language one that was kept aside is closed before it
becomes a copy, so that a message of this going wrong may be lost. -/
def turnAll (isKept : Bool) : List (Nat × Goal) → Eval Unit
  | [] => return ()
  | (descriptor, goal) :: rest => do
    let isCopy := match goal with
      | .copy source => source ≠ descriptor
      | _ => false
    if isKept && isCopy && !(← get).isExtended then act (Act.close descriptor)
    turn descriptor goal
    turnAll isKept rest

def save : List Nat → List Saved → Eval (List Saved)
  | [], saved => return saved
  | descriptor :: rest, saved => do
    if saved.any (·.1 == descriptor) then save rest saved
    else
      let copy ← act (Act.duplicateFrom 10 descriptor)
      save rest ((descriptor, copy) :: saved)

def restore : List Saved → Eval Unit
  | [] => return ()
  | (descriptor, copy) :: rest => do
    act (match copy with
      | some number => do
        let _ ← Act.duplicate number descriptor
        Act.close number
      | none => Act.close descriptor)
    restore rest

def forget : List Saved → Eval Unit
  | [] => return ()
  | (_, copy) :: rest => do
    match copy with
    | some number => act (Act.close number)
    | none => pure ()
    forget rest

/-- Makes descriptors lead elsewhere for a while; tells whether that went well. Either way what was
kept aside has to be put back or let go. -/
def begin (goals : List (Nat × Goal)) : Eval (List Saved × Bool) := do
  if goals.isEmpty then return ([], true)
  let saved ← save (goals.map (·.1)) []
  match ← caught (turnAll true goals) with
  | .ok () => return (saved, true)
  | .error .error => return (saved, false)
  | .error .exit => throw Leave.exit

end Converge.Shell.Redirection
