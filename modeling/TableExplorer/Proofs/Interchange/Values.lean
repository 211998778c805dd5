import TableExplorer.Interchange.Answers
import TableExplorer.Interchange.Requests
import TableExplorer.Proofs.Json.Written

/-!
Values survive JSON.  A value is written without a word about its kind, and the kind is seen from
the text: digits alone are an integer, a point or an exponent makes a real, quotes make a text.

* `Value.ofJson?_toJson`: a value is what its JSON means.
* `Value.load_toJson`: **what the text of a value is read as**: the value itself, if a real among
  them reads back; and never a value of another kind.
-/

namespace TableExplorer.Value

/-- **A value is what its JSON means.** -/
lemma ofJson?_toJson (v : Value) : ofJson? v.toJson = some v := by
  cases v with
  | null => rfl
  | real x => rfl
  | text s => rfl
  | integer i =>
      have hrange : -(Word.signedBound : Int) ≤ i.toInt ∧ i.toInt < Word.signedBound :=
        ⟨i.le_toInt, i.toInt_lt⟩
      rw [toJson, ofJson?, Word.int64?, if_pos hrange, Int64.ofInt_toInt]
      rfl

/-- The JSON of a value is exact if a real reads back. -/
lemma isExact_toJson {v : Value}
    (hreal : ∀ x, v = .real x → x.isFinite = true ∧ Json.ReadsBack x) : v.toJson.IsExact := by
  cases v with
  | null => exact .null
  | text s => exact .string s
  | real x => exact .real x (hreal x rfl).1 (hreal x rfl).2
  | integer i =>
      refine .integer i.toInt i.le_toInt (i.toInt_lt.trans ?_)
      decide

/-- What the document of some JSON is read as. -/
lemma load_of_isDocument {text : String} {json : Json} (h : Json.IsDocument text json) :
    load text = (ofJson? json).elim (.error (.serialization "not a value")) .ok := by
  rw [load, h.ofText?_eq, Option.bind_some]
  cases ofJson? json <;> rfl

/-- The text of a real is not read as anything but a real. -/
lemma exists_load_real {x : Binary64} (hx : x.isFinite = true) {w : Value}
    (h : load (toJson (.real x)).compact = .ok w) : ∃ y, w = .real y := by
  obtain ⟨x?, htext, -⟩ := Json.exists_isText_real hx
  rw [toJson, Json.compact, load_of_isDocument htext.isDocument] at h
  cases x? with
  | none => cases h
  | some y => exact ⟨y, (Except.ok.inj h).symm⟩

/-- **What the text of a value is read as.**  If the value is a real, let it be finite.  Then its
text, on one line or on many, is read as the value itself, the digits of a real being read as that
real; and whatever they are read as, no value is read as one of another kind. -/
theorem load_toJson (v : Value) (hfinite : ∀ x, v = .real x → x.isFinite = true) :
    ((∀ x, v = .real x → Json.ReadsBack x) →
      load v.toJson.compact = .ok v ∧ load v.toJson.pretty = .ok v) ∧
    ∀ w, load v.toJson.compact = .ok w → w = v ∨ ∃ x y, v = .real x ∧ w = .real y := by
  have hload : (∀ x, v = .real x → Json.ReadsBack x) →
      load v.toJson.compact = .ok v ∧ load v.toJson.pretty = .ok v := by
    intro hback
    have hexact := isExact_toJson fun x hx => ⟨hfinite x hx, hback x hx⟩
    rw [load_of_isDocument hexact.isDocument_compact, load_of_isDocument hexact.isDocument_pretty,
      ofJson?_toJson]
    exact ⟨rfl, rfl⟩
  refine ⟨hload, fun w hw => ?_⟩
  by_cases hreal : ∃ x, v = .real x
  · obtain ⟨x, rfl⟩ := hreal
    obtain ⟨y, rfl⟩ := exists_load_real (hfinite x rfl) hw
    exact .inr ⟨x, y, rfl, rfl⟩
  · have hself := (hload fun x hx => absurd ⟨x, hx⟩ hreal).1
    rw [hself] at hw
    exact .inl (Except.ok.inj hw).symm

/-- A zero with a minus and a whole real stay reals, the least integer stays an integer, and a text
that looks like nothing stays a text, with its line break, its control character and its quote. -/
theorem load_edges :
    load "-0.0" = .ok (.real (.finite true .zero)) ∧
      load "1e+16" = .ok (.real (.ofInt (10 ^ 16))) ∧
      load "-9223372036854775808" = .ok (.integer Int64.minValue) ∧
      load "\"null\\n\\u0001\\\"\"" = .ok (.text "null\n\x01\"") := by
  have hfinite : (Binary64.ofInt (10 ^ 16)).isFinite = true := by decide +kernel
  have hback : Json.ReadsBack (.ofInt (10 ^ 16)) := by decide +kernel
  have hzero := ((load_toJson (.real (.finite true .zero))
    fun _ h => real.inj h ▸ rfl).1 fun _ h => real.inj h ▸ by decide +kernel).1
  have hwhole := ((load_toJson (.real (.ofInt (10 ^ 16)))
    fun _ h => real.inj h ▸ hfinite).1 fun _ h => real.inj h ▸ hback).1
  have hleast := ((load_toJson (.integer Int64.minValue) fun _ h => nomatch h).1
    fun _ h => nomatch h).1
  have htext := ((load_toJson (.text "null\n\x01\"") fun _ h => nomatch h).1
    fun _ h => nomatch h).1
  refine ⟨?_, ?_, ?_, ?_⟩
  · rw [show (toJson (.real (.finite true .zero))).compact = "-0.0" by decide +kernel] at hzero
    exact hzero
  · rw [show (toJson (.real (.ofInt (10 ^ 16)))).compact = "1e+16" by decide +kernel] at hwhole
    exact hwhole
  · rw [show (toJson (.integer Int64.minValue)).compact = "-9223372036854775808" by
      decide +kernel] at hleast
    exact hleast
  · rw [show (toJson (.text "null\n\x01\"")).compact = "\"null\\n\\u0001\\\"\"" by
      decide +kernel] at htext
    exact htext

end TableExplorer.Value
