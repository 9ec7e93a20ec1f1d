import Converge.Proofs.FileGrowth
import Converge.Proofs.Planning
import Converge.Proofs.ReportLine
import Converge.Report.Journal

set_option autoImplicit false

namespace Converge

open Text

theorem Text.le_of_mem_toOctets {s : String} (printed : ∀ c ∈ s.toList, 0x20 ≤ c.toNat)
    {octet : UInt8} (member : octet ∈ toOctets s) : 0x20 ≤ octet.toNat := by
  obtain ⟨c, given, part⟩ := List.mem_flatMap.1 member
  have low : 0x20 ≤ c.val.toNat := printed c given
  have kept (n : Nat) (fits : 0x20 ≤ n ∧ n < 0x100) : 0x20 ≤ (UInt8.ofNat n).toNat := by
    rw [UInt8.toNat_ofNat']
    omega
  unfold String.utf8EncodeChar at part
  dsimp only at part
  -- A character below 0x80 is its own octet; every octet of any other has its highest bit.
  split_ifs at part <;> simp only [List.mem_cons, List.not_mem_nil, or_false] at part
  · subst part
    exact kept _ (by omega)
  all_goals rcases part with rfl | rfl | rfl | rfl <;> exact kept _ (by omega)

-- The octets of the ended lines, without the octets that end them.
def Text.rows (octets : Utf8.Octets) : List Utf8.Octets := (octets.splitOn 0x0A).dropLast

theorem Text.rows_append {old : Utf8.Octets} (ends : old = [] ∨ old.getLast? = some 0x0A)
    (rest : Utf8.Octets) : rows (old ++ rest) = rows old ++ rows rest := by
  -- Where the last line is not ended, the rest would go on with it.
  rcases ends with rfl | ends
  · simp [rows]
  · obtain ⟨ended, rfl⟩ := List.getLast?_eq_some_iff.1 ends
    have cut (more : Utf8.Octets) : rows (ended ++ 0x0A :: more) =
        ended.splitOn 0x0A ++ (more.splitOn 0x0A).dropLast := by
      rw [rows, List.splitOn_append_cons_of_beq _ _ (by simp),
        List.dropLast_append_of_ne_nil (List.splitOn_ne_nil _ _)]
    rw [List.append_assoc, List.singleton_append, cut, cut]
    simp [rows]

namespace Report

def row (r : Report) : Utf8.Octets := toOctets r.line

def entry (r : Report) : Utf8.Octets := r.row ++ [0x0A]

theorem toOctets_line (r : Report) : toOctets (r.line ++ "\n") = r.entry := by
  simp [toOctets, Utf8.encode, entry, row, String.utf8EncodeChar]

theorem row_injective {a b : Report} (same : a.row = b.row) : a = b :=
  line_injective (toOctets_injective same)

theorem row_feedless (r : Report) : 0x0A ∉ r.row := by
  intro member
  have low := le_of_mem_toOctets r.line_printed member
  simp at low

theorem rows_entries (rs : List Report) : rows (rs.flatMap entry) = rs.map row := by
  induction rs with
  | nil => simp [rows]
  | cons r rest ih =>
    have one : rows r.entry = [r.row] := by
      rw [rows, entry, List.splitOn_append_cons_self_of_not_mem r.row_feedless]
      simp
    rw [List.flatMap_cons, rows_append (.inr (by simp [entry])), one, ih, List.map_cons]
    rfl

end Report

namespace Journal

/-- Opening the journal at one path, now and then, and adding reports to whichever of them is open.
Nothing is refused, and nothing else touches the files. -/
inductive History (path : OsString) (files : FileSystem) :
    List Journal → List Report → FileSystem → Prop where
  | start : History path files [] [] files
  | opened {js : List Journal} {rs : List Report} {fs fs' : FileSystem} {j : Journal}
      (before : History path files js rs fs) (opens : openAt fs path = (.ok j, fs')) :
      History path files (j :: js) rs fs'
  | added {js : List Journal} {rs : List Report} {fs fs' : FileSystem} {j : Journal} {r : Report}
      (before : History path files js rs fs) (member : j ∈ js) (adds : j.append fs r = .ok fs') :
      History path files js (rs ++ [r]) fs'

theorem openAt_ok {fs fs' : FileSystem} {path : OsString} {j : Journal}
    (opens : openAt fs path = (.ok j, fs')) :
    ∃ node, fs.Offers j.place node ∧ fs'.target true path = .ok (.present j.place node) ∧
      fs.Grows fs' := by
  have made {above : FileSystem} {place : Location} (adds : fs.AddsDirectories above)
      (ok : above.openForWriting path = .ok (place, fs')) :
      ∃ node, fs.Offers place node ∧ fs'.target true path = .ok (.present place node) ∧
        fs.Grows fs' := by
    obtain ⟨node, solid, offers, ends, grows⟩ := FileSystem.openForWriting_ok ok
    exact ⟨node, adds.offers solid offers, ends, adds.grows.trans grows⟩
  unfold openAt at opens
  dsimp only at opens
  split at opens
  case h_1 => simp at opens
  case h_2 =>
    split at opens
    case h_2 => simp at opens
    case h_1 place opened ok =>
      obtain ⟨rfl, rfl⟩ : Journal.mk place path = j ∧ opened = fs' := by simpa using opens
      cases missing : missingDirectory? fs path with
      | none =>
        simp only [missing] at ok
        exact made (.refl fs) ok
      | some parent =>
        simp only [missing] at ok
        exact made (FileSystem.makeDirectoriesWithin_adds _ fs parent) ok

theorem append_ok {fs fs' : FileSystem} {j : Journal} {r : Report} {node : Node}
    (found : fs.find? j.place = some node) (adds : j.append fs r = .ok fs') :
    fs'.find? j.place = some (node.append r.entry) ∧ fs.Grows fs' := by
  unfold append at adds
  split at adds
  case h_1 => cases adds
  case h_2 =>
    cases adds
    rw [Report.toOctets_line]
    exact ⟨by simp [FileSystem.find?_appendAt found], FileSystem.grows_appendAt found _⟩

section

variable {path : OsString} {files fs : FileSystem} {js : List Journal} {rs : List Report}

theorem History.leads (history : History path files js rs fs) :
    js = [] ∧ rs = [] ∧ fs = files ∨
      ∃ place node, (∀ j ∈ js, j.place = place) ∧ files.Offers place node ∧
        fs.target true path = .ok (.present place (node.append (rs.flatMap Report.entry))) := by
  induction history with
  | start => exact .inl ⟨rfl, rfl, rfl⟩
  | @opened js rs fs fs' j before opens ih =>
    right
    obtain ⟨node', offers', ends', grows⟩ := openAt_ok opens
    rcases ih with ⟨rfl, rfl, rfl⟩ | ⟨place, node, same, offers, ends⟩
    · exact ⟨j.place, node', by simp, offers', by simpa using ends'⟩
    · -- What another opening finds is what the first one left there, with the reports since.
      have here := FileSystem.target_present ends
      obtain ⟨octets, kept⟩ := grows.kept place _ here
      have again := FileSystem.target_grown grows kept (.inl ⟨_, ends⟩)
      obtain ⟨there, _⟩ : j.place = place ∧ node' = _ := by simpa [again, eq_comm] using ends'
      have unchanged : node' = node.append (rs.flatMap Report.entry) := by
        simpa [FileSystem.Offers, there, here, eq_comm] using offers'
      refine ⟨place, node, ?_, offers, by rw [ends', there, unchanged]⟩
      intro other member
      rcases List.mem_cons.1 member with rfl | member
      · exact there
      · exact same other member
  | @added js rs fs fs' j r before member adds ih =>
    right
    rcases ih with ⟨rfl, _, _⟩ | ⟨place, node, same, offers, ends⟩
    · simp at member
    · obtain rfl := same j member
      obtain ⟨found, grows⟩ := append_ok (FileSystem.target_present ends) adds
      have again := FileSystem.target_grown grows found (.inl ⟨_, ends⟩)
      refine ⟨j.place, node, same, offers, ?_⟩
      rw [again, Node.append_append, List.flatMap_append, List.flatMap_singleton]

-- A pass that opens the journal, adds its report and ends is one more opening and adding.
theorem History.written {fs' : FileSystem} {j : Journal} {r : Report}
    (before : History path files js rs fs) (writes : write fs path r = (.ok j, fs')) :
    History path files (j :: js) (rs ++ [r]) fs' := by
  unfold write at writes
  split at writes
  case h_1 opener opened opens =>
    split at writes
    case h_1 changed adds =>
      obtain ⟨rfl, rfl⟩ : opener = j ∧ changed = fs' := by simpa using writes
      exact (before.opened opens).added (by simp) adds
    case h_2 => simp at writes
  case h_2 => simp at writes

/-- `old` is what the file held that `j` was opened on, nothing if there was none. -/
theorem reports_kept_as_lines (history : History path files js rs fs) {j : Journal}
    (member : j ∈ js) {old : Utf8.Octets}
    (held : files.find? j.place = none ∧ old = [] ∨
      ∃ executable, files.find? j.place = some (.file old executable))
    (ended : old = [] ∨ old.getLast? = some 0x0A) :
    fs.readOctets path = .ok (old ++ rs.flatMap Report.entry) ∧
      rows (old ++ rs.flatMap Report.entry) = rows old ++ rs.map Report.row ∧
      (∀ r : Report, ∀ c ∈ r.line.toList, 0x20 ≤ c.toNat) ∧
      ∀ r s : Report, r.row = s.row → r = s := by
  have kept : fs.readOctets path = .ok (old ++ rs.flatMap Report.entry) := by
    rcases history.leads with ⟨rfl, _⟩ | ⟨place, node, same, offers, ends⟩
    · simp at member
    · obtain rfl := same j member
      have file : ∃ executable, node = .file old executable := by
        rcases held with ⟨free, rfl⟩ | ⟨executable, found⟩
        · exact ⟨false, by simpa [FileSystem.Offers, free] using offers⟩
        · exact ⟨executable, by simpa [FileSystem.Offers, found, eq_comm] using offers⟩
      obtain ⟨executable, rfl⟩ := file
      simp [FileSystem.readOctets, FileSystem.lookUp, ends, Node.append]
  refine ⟨kept, ?_, Report.line_printed, fun r s => Report.row_injective⟩
  rw [rows_append ended, Report.rows_entries]

end

end Journal

namespace Sample

def logged (content : Utf8.Octets) : FileSystem := files.set ["etc", "log"] (.file content false)

def log : Journal := ⟨["etc", "log"], "/etc/log"⟩

def quoting : Report where
  runId := .ofNat 7
  started := ⟨0⟩
  platform := "ubuntu"
  verdict := .failure "ACTION_FAILED" "web: \"no\"\nroute"

theorem target_logged (content : Utf8.Octets) :
    (logged content).target true "/etc/log" = .ok (.present log.place (.file content false)) ∧
      (logged content).target true "/etc" = .ok (.present ["etc"] (.directory true)) := by
  rw [FileSystem.target_absolute _ "/etc/log" ["etc", "log"] (by decide),
    FileSystem.target_absolute _ "/etc" ["etc"] (by decide)]
  simp [FileSystem.walk, logged, log, files, FileSystem.set, FileSystem.find?, List.lookup_cons,
    FileSystem.nameLimit, Utf8.size, Char.utf8Size]

theorem openAt_logged (content : Utf8.Octets) :
    Journal.openAt (logged content) "/etc/log" = (.ok log, logged content) := by
  obtain ⟨file, directory⟩ := target_logged content
  have parent : Path.parent? "/etc/log" = some "/etc" := by decide
  simp [Journal.openAt, Journal.missingDirectory?, parent, FileSystem.pathExists,
    FileSystem.lookUp, directory, FileSystem.openForWriting, file, log]

theorem write_logged (content : Utf8.Octets) (r : Report) :
    Journal.write (logged content) "/etc/log" r = (.ok log, logged (content ++ r.entry)) := by
  have found := FileSystem.target_present (target_logged content).1
  have adds : log.append (logged content) r = .ok (logged (content ++ r.entry)) := by
    simp only [Journal.append, found, FileSystem.appendAt, Report.toOctets_line]
    simp [logged, log, files, FileSystem.set]
  simp only [Journal.write, openAt_logged, adds]

end Sample

namespace Journal

open Sample

theorem reports_kept_as_lines_reopened :
    let old := toOctets "{}\n"
    let fs := logged (old ++ quoting.entry ++ quoting.entry)
    History "/etc/log" (logged old) [log, log] [quoting, quoting] fs ∧
      fs.readOctets "/etc/log" = .ok (old ++ [quoting, quoting].flatMap Report.entry) ∧
      rows (old ++ [quoting, quoting].flatMap Report.entry) =
        toOctets "{}" :: [quoting, quoting].map Report.row := by
  intro old fs
  have history : History "/etc/log" (logged old) [log, log] [quoting, quoting] fs :=
    (History.start.written (write_logged old quoting)).written (write_logged _ quoting)
  obtain ⟨kept, lines, -⟩ := reports_kept_as_lines history (.head _)
    (.inr ⟨false, FileSystem.target_present (target_logged old).1⟩) (.inr (by decide))
  exact ⟨history, kept, lines⟩

end Journal

end Converge
