/-
  The operations of requests answer values that hold nothing but well-formed positions and ranges.

  * `ensures_sum`, `ensures_toInt`: sums and numbers;
  * `Value.Combines`: a position that two positions of its kind are combined to;
  * `ensures_add`, `ensures_saturatingSub`: what is asked of a position;
  * `ensures_rangeWith`, `ensures_cover`, …: what is asked of a range;
  * `Unary.ensures_apply`, `Binary.ensures_apply`: what a request applies to values.
-/
import Caret.Proofs.WellFormed.Values
import Caret.Script.Operation

namespace Caret

namespace Value

variable {o : Objects} {v w : Value}

/-! ## Sums and numbers -/

theorem sound_ofNumber (n : Number) : (ofNumber n).Sound := by
  cases n with
  | int n => exact .int n
  | float x => exact .float none x

theorem ensures_ofNumber (x : Except Fault Number) : Ensures Sound (x.map ofNumber) :=
  (Ensures.trivial x).map fun n _ => sound_ofNumber n

theorem ensures_sum (hv : v.Sound) (hw : w.Sound) : Ensures Sound (v.sum w) := by
  rw [sum.eq_def]
  split
  · rename_i p q
    exact (p.ensures_sum q).map fun _ hs => .position hs.sound
  · exact .ok (.text _)
  · cases hv with
    | list has =>
      cases hw with
      | list hbs => exact .ok (.list (List.forall_mem_append.2 ⟨has, hbs⟩))
  · cases hv with
    | tuple has =>
      cases hw with
      | tuple hbs => exact .ok (.tuple (List.forall_mem_append.2 ⟨has, hbs⟩))
  · split
    · exact ensures_ofNumber _
    · exact .error _
    · exact .error _
    · exact .error _
    · exact .error _

theorem ensures_fieldSum (o : Objects) (name : Value) (hv : v.Sound) (hw : w.Sound) :
    Ensures Sound (name.fieldSum o v w) := by
  refine (ensures_sum hv hw).bind fun total htotal => ?_
  cases total.number? with
  | none => exact .error _
  | some n => exact .ite (.next fun _ => .next fun _ => .next fun _ => .error _) (.ok htotal)

theorem ensures_toInt (v : Value) : Ensures Sound v.toInt := by
  rw [toInt.eq_def]
  split
  · exact .ok (.int _)
  · split
    · exact .error _
    · exact .ok (.int _)
    · exact .error _
  · split
    · exact (Ensures.trivial _).map fun n _ => .int n
    · exact .error _

/-! ## Asked of a position -/

/-- The values `v` and `w` are positions of one kind, and `u` is the position that they are combined
    to. -/
def Combines (v w u : Value) : Prop :=
  ∃ p q s : Position, v = position p ∧ w = position q ∧ u = position s ∧ p.Combines q s

theorem Combines.sound {u : Value} (h : v.Combines w u) : u.Sound := by
  obtain ⟨p, q, s, -, -, rfl, hs⟩ := h
  exact .position hs.sound

theorem ensures_add (v w : Value) : Ensures (Combines v w) (v.add w) := by
  rw [add.eq_def]
  split
  · rename_i p q
    exact (p.ensures_add q).map fun s hs => ⟨p, q, s, rfl, rfl, rfl, hs⟩
  · exact .error _
  · exact .error _

theorem ensures_saturatingSub (v w : Value) : Ensures (Combines v w) (v.saturatingSub w) := by
  rw [saturatingSub.eq_def]
  split
  · rename_i p q
    exact (p.ensures_saturatingSub q).map fun s hs => ⟨p, q, s, rfl, rfl, rfl, hs⟩
  · exact .error _
  · exact .error _

theorem sound_pair (a b : Coordinate) : (tuple [ofCoordinate a, ofCoordinate b]).Sound :=
  .tuple (List.forall_mem_cons.2 ⟨.int _, List.forall_mem_cons.2 ⟨.int _, nofun⟩⟩)

theorem ensures_asTuple (v : Value) : Ensures Sound v.asTuple := by
  rw [asTuple.eq_def]
  split
  · exact .ok (sound_pair _ _)
  · exact .error _

theorem ensures_gnuRowColumn (v : Value) : Ensures Sound v.gnuRowColumn := by
  rw [gnuRowColumn.eq_def]
  split
  · exact .ok (sound_pair _ _)
  · exact .ok (sound_pair _ _)
  · exact .error _

theorem sound_ofEditorPosition (p : RowColumn .utf16) : (ofEditorPosition p).Sound :=
  .object (SoundEntries.cons (.int _) (.cons (.int _) .nil))

theorem sound_ofEditorRange (r : Range (RowColumn .utf16)) : (ofEditorRange r).Sound :=
  .object (SoundEntries.cons (sound_ofEditorPosition r.start)
    (.cons (sound_ofEditorPosition r.stop) .nil))

theorem ensures_toEditor (v : Value) : Ensures Sound v.toEditor := by
  rw [toEditor.eq_def]
  split
  · exact .ok (sound_ofEditorPosition _)
  · exact .ok (sound_ofEditorRange _)
  · exact .error _
  · exact .error _

/-! ## Asked of a range -/

theorem ensures_rangeWith (name : Text) (hv : v.Sound) :
    Ensures PositionRange.Sound (v.rangeWith name) := by
  cases hv with
  | range hr => exact .ok hr
  | _ => exact .error _

theorem ensures_rangeToCompare (apart : Text → Mismatch) (hv : v.Sound) :
    Ensures PositionRange.Sound (v.rangeToCompare apart) := by
  cases hv with
  | range hr => exact .ok hr
  | cls c =>
    rw [rangeToCompare]
    cases c.memberKind? "start" <;> exact .error _
  | _ => exact .error _

theorem ensures_len (hv : v.Sound) : Ensures Sound v.len :=
  (ensures_rangeWith "len" hv).bind fun r _ => r.ensures_len.bind fun _ hp => .ok (.position hp)

theorem ensures_startPoint (hv : v.Sound) : Ensures Sound v.startPoint :=
  (ensures_rangeWith "start_point" hv).bind fun _ hr =>
    (PositionRange.ensures_startPoint hr).bind fun _ hs => .ok (.range hs)

theorem ensures_endPoint (hv : v.Sound) : Ensures Sound v.endPoint :=
  (ensures_rangeWith "end_point" hv).bind fun _ hr =>
    (PositionRange.ensures_endPoint hr).bind fun _ hs => .ok (.range hs)

theorem ensures_intersect (hv : v.Sound) (hw : w.Sound) : Ensures Sound (v.intersect w) := by
  refine (ensures_rangeWith "intersect" hv).bind fun r hr => ?_
  refine (ensures_rangeToCompare _ hw).bind fun s hs => ?_
  refine (PositionRange.ensures_intersect hr hs).bind fun u hu => .ok ?_
  cases u with
  | none => exact .null
  | some t => exact .range (hu t rfl)

theorem ensures_cover (hv : v.Sound) (hw : w.Sound) : Ensures Sound (v.cover w) := by
  refine (ensures_rangeWith "cover" hv).bind fun r hr => ?_
  refine (ensures_rangeToCompare _ hw).bind fun s hs => ?_
  exact (PositionRange.ensures_cover hr hs).bind fun _ hu => .ok (.range hu)

theorem ensures_coverPosition (hv : v.Sound) (hw : w.Sound) :
    Ensures Sound (v.coverPosition w) := by
  refine (ensures_rangeWith "cover_position" hv).bind fun r hr => ?_
  split
  · cases hw with
    | position hp =>
      exact (PositionRange.ensures_coverPosition hr hp).bind fun _ hu => .ok (.range hu)
  · refine (ensures_rangeOf hw hw).bind fun s hs => ?_
    exact (PositionRange.ensures_cover hr hs).bind fun _ hu => .ok (.range hu)

end Value

/-! ## Operations of requests -/

open Value

variable {o : Objects} {v w : Value}

theorem Unary.ensures_apply (op : Unary) (ho : o.Sound) (hv : v.Sound) :
    Ensures Sound (op.apply o v) := by
  cases op with
  | value => exact .ok hv
  | display => exact .next fun _ => .ok (.text _)
  | written => exact .next fun _ => .ok (.text _)
  | toInt => exact ensures_toInt v
  | greatest => exact ensures_greatest o hv
  | least => exact ensures_least o hv
  | sort => exact ensures_sort o hv
  | distinct => exact ensures_distinct v
  | isPosition => exact .ok (.bool _)
  | zero => exact ensures_get ho hv "ZERO"
  | byteIndex => exact .next fun _ => .ok (.position trivial)
  | editorPosition => exact .next fun _ => .ok (.position trivial)
  | editorRange => exact (ensures_editorRange v).bind fun _ hr => .ok (.range hr)
  | toEditor => exact ensures_toEditor v
  | zeroRange => exact (ensures_zeroRange v).bind fun _ hr => .ok (.range hr)
  | emptyRange => exact (ensures_rangeOf hv hv).bind fun _ hr => .ok (.range hr)
  | rangeUpTo => exact (ensures_rangeUpTo hv).bind fun _ hr => .ok (.range hr)
  | asTuple => exact ensures_asTuple v
  | gnuRowColumn => exact ensures_gnuRowColumn v
  | checkConsistency => exact (Ensures.trivial _).map fun _ _ => .null
  | len => exact ensures_len hv
  | isEmpty => exact .next fun _ => .ok (.bool _)
  | startPoint => exact ensures_startPoint hv
  | endPoint => exact ensures_endPoint hv

theorem Binary.ensures_apply (op : Binary) (ho : o.Sound) (hv : v.Sound) (hw : w.Sound) :
    Ensures Sound (op.apply o v w) := by
  have htest (x : Except Fault Bool) : Ensures Sound (do return .bool (← x)) :=
    .next fun b => .ok (.bool b)
  have hcheck (x : Except Fault Unit) : Ensures Sound (x.map fun _ => .null) :=
    (Ensures.trivial x).map fun _ _ => .null
  cases op with
  | sum => exact ensures_sum hv hw
  | test c => exact htest _
  | get => exact .next fun name => ensures_get ho hv name
  | field => exact .next fun _ => .ok (.int _)
  | requireSameKind => exact hcheck _
  | add => exact fun u hu => (ensures_add v w u hu).sound
  | saturatingSub => exact fun u hu => (ensures_saturatingSub v w u hu).sound
  | checkComparable => exact hcheck _
  | contains => exact htest _
  | containsInclusive => exact htest _
  | covers => exact htest _
  | overlaps => exact htest _
  | intersect => exact ensures_intersect hv hw
  | cover => exact ensures_cover hv hw
  | coverPosition => exact ensures_coverPosition hv hw
  | isError => exact .ok (.bool _)

end Caret
