import Voicemail.Proofs.Json.Pretty
import Voicemail.Report.Basic

/-!
# Reports for programs

A report in JSON has five members whatever it says, and a reader that takes every integer gets each
of them back (`Report.json_decodes`). Levels are the one limit: the writer counts those of each item
of the data and of an error's detail, and gives no text at all for a report with an item of more
than it takes (`Report.IsShallow`). Whether a report is quiet makes no difference to its JSON.
-/

namespace Voicemail

namespace Json

/-- Null in so many lists, one in another. -/
def nested : Nat → Json
  | 0 => .null
  | n + 1 => .arr [nested n]

/-- Each list is one level more. -/
theorem depth_nested (n : Nat) : (nested n).depth = n + 1 := by
  induction n with
  | zero => rfl
  | succ n ih => rw [nested, depth, depthOfItems, depthOfItems, ih, Nat.max_zero]

/-- Nothing about lists in lists keeps a reader from giving them. -/
theorem isExact_nested (limited : Bool) (n : Nat) : (nested n).IsExact limited := by
  induction n with
  | zero => exact isExact_null
  | succ n ih => exact isExact_items.2 ⟨ih, isExact_arr_nil⟩

end Json

namespace Report

variable {r : Report} {limited : Bool}

/-! ## Reports that are written -/

/-- No item of the data or of an error's detail has too many levels to be written in JSON. -/
def IsShallow (r : Report) : Prop :=
  (∀ x ∈ r.data, x.2.depth ≤ maxDepth) ∧ ∀ e ∈ r.error, ∀ x ∈ e.detail, x.2.depth ≤ maxDepth

/-- Whether a report is shallow is what the writer looks at before it writes. -/
theorem isShallow_iff : r.IsShallow ↔
    (r.data ++ (r.error.map (·.detail)).getD []).all (fun x => x.2.depth ≤ maxDepth) = true := by
  rw [IsShallow, List.all_append, Bool.and_eq_true, List.all_eq_true, List.all_eq_true]
  simp only [decide_eq_true_eq]
  refine and_congr_right' ?_
  cases r.error <;> simp

/-- A shallow report has a text in JSON, be it quiet or not. -/
theorem format_of_isShallow (h : r.IsShallow) (quiet : Bool) :
    r.format true quiet = .ok r.toJson.prettyText :=
  if_pos (isShallow_iff.1 h)

/-- Any other report has none. -/
theorem format_of_not_isShallow (h : ¬r.IsShallow) (quiet : Bool) :
    r.format true quiet = .error .reportTooDeep :=
  if_neg (mt isShallow_iff.2 h)

/-- A report that is not too deep is written in every form. -/
theorem exists_format (h : r.IsShallow) (json quiet : Bool) :
    ∃ text, r.format json quiet = .ok text := by
  cases json with
  | false => exact ⟨_, rfl⟩
  | true => exact ⟨_, format_of_isShallow h quiet⟩

/-- The report of a success whose one item is null in so many lists. -/
def nesting (n : Nat) : Report := .success "x" [("k", Json.nested n)]

/-- The report of null in lists is shallow while the lists and the null are not too many levels. -/
theorem isShallow_nesting (n : Nat) : (nesting n).IsShallow ↔ n + 1 ≤ maxDepth := by
  simp [IsShallow, nesting, success, Json.depth_nested]

/-! ## Reports that are read back -/

/-- The data and an error's detail hold no doubles and no key twice, nor too long an integer for a
reader that limits them. -/
structure IsExact (limited : Bool) (r : Report) : Prop where
  data : (Json.obj r.data).IsExact limited
  detail : ∀ e ∈ r.error, (Json.obj e.detail).IsExact limited

/-- Texts are read back exactly. -/
theorem isExact_strings (ws : List String) : (Json.arr (ws.map .str)).IsExact limited := by
  induction ws with
  | nil => exact Json.isExact_arr_nil
  | cons w ws ih => exact Json.isExact_items.2 ⟨Json.isExact_str w, ih⟩

/-- An error of exact detail is exact, and so is that there is none. -/
theorem IsExact.error (h : r.IsExact limited) :
    ((r.error.map ReportError.toJson).getD Json.null).IsExact limited := by
  have hdetail := h.detail
  cases herror : r.error with
  | none => exact Json.isExact_null
  | some e => simp [ReportError.toJson, Assoc.keys, hdetail e herror]

/-- A report of exact parts is exact as a whole. -/
theorem IsExact.toJson (h : r.IsExact limited) : r.toJson.IsExact limited := by
  simp [Report.toJson, Assoc.keys, h.data, h.error, isExact_strings]

/-- A report of null in lists is exact, however many there are. -/
theorem isExact_nesting (limited : Bool) (n : Nat) : (nesting n).IsExact limited := by
  refine ⟨by simp [nesting, success, Assoc.keys, Json.isExact_nested], ?_⟩
  rintro _ ⟨⟩

/-- A report that is not too deep is read back from its JSON with all its parts and their keys in
order; one that is too deep has no JSON. -/
theorem json_decodes (h : r.IsExact limited) :
    (r.IsShallow → ∃ text, (∀ quiet, r.format true quiet = .ok text) ∧
      Json.readChars? limited text.toList = some (.obj [
        ("ok", .bool r.ok),
        ("op", .str r.op),
        ("data", .obj r.data),
        ("warnings", .arr (r.warnings.map .str)),
        ("error", r.error.elim .null fun e => .obj [
          ("code", .str e.code),
          ("message", .str e.message),
          ("detail", .obj e.detail)])])) ∧
    (¬r.IsShallow → ∀ quiet, r.format true quiet = .error .reportTooDeep) := by
  refine ⟨fun hshallow => ⟨_, format_of_isShallow hshallow, ?_⟩, format_of_not_isShallow⟩
  have hread := Json.readChars?_prettyText h.toJson
  rw [hread]
  cases herror : r.error <;> simp [toJson, herror, ReportError.toJson]

/-- A report whose data, warnings and error all say something, with keys out of order. -/
def mixed : Report where
  ok := false
  op := "route"
  data := [("z", .arr [.int (-5), .str "a\"\n\u00e9", .arr []]), ("a", .obj [("k", .null)])]
  warnings := ["slow"]
  error := some { code := "E", message := "down", detail := [("retry", .bool true)] }

/-- A report with values of most kinds is read back, and one that is a level too deep has no text.
-/
theorem json_decodes_mixed : mixed.IsExact false ∧ mixed.IsShallow ∧
    (∃ text, (∀ quiet, mixed.format true quiet = .ok text) ∧
      Json.restore? text = some mixed.toJson) ∧
    ¬(nesting 255).IsShallow ∧ (nesting 255).format true true = .error .reportTooDeep := by
  have hexact : mixed.IsExact false := by
    refine ⟨by simp [mixed, Assoc.keys], ?_⟩
    rintro _ ⟨⟩
    simp [Assoc.keys]
  have hshallow : mixed.IsShallow := isShallow_iff.2 (by decide)
  have hdeep : ¬(nesting 255).IsShallow := mt (isShallow_nesting 255).1 (by decide)
  exact ⟨hexact, hshallow, (json_decodes hexact).1 hshallow, hdeep,
    (json_decodes (isExact_nesting false 255)).2 hdeep true⟩

/-- Null in 255 lists is as exact as any value, and no text of it is there to be read. -/
theorem not_decodes_nesting : (nesting 255).IsExact false ∧
    ∀ quiet, ¬∃ text, (nesting 255).format true quiet = .ok text ∧
      Json.restore? text = some (nesting 255).toJson := by
  refine ⟨isExact_nesting false 255, ?_⟩
  rintro quiet ⟨text, htext, -⟩
  rw [format_of_not_isShallow (mt (isShallow_nesting 255).1 (by decide))] at htext
  cases htext

end Report

end Voicemail
