/-
  Values that hold nothing but well-formed positions and ranges.

  * `Value.Sound`: such values, whatever they are made of;
  * `Objects.Sound`: error objects say nothing but such values;
  * `sound_toValue`: plain data hold no positions at all;
  * `sound_attributes`, `ensures_get`: what is read of such values;
  * `ensures_rangeOf`, `ensures_editorRange`: ranges made of them;
  * `ensures_greatest`, `ensures_sort`: what is chosen among them.
-/
import Caret.Proofs.WellFormed.Positions
import Caret.Value.Building
import Caret.Value.Choosing

namespace Caret

/-- A value that holds nothing but valid ranges, and positions that are consistent if they are
    watched. -/
inductive Value.Sound : Value → Prop
  | null : Sound .null
  | bool (b : Bool) : Sound (.bool b)
  | int (n : Int) : Sound (.int n)
  | float (mark : Option Nat) (x : Binary64) : Sound (.float mark x)
  | text (t : Text) : Sound (.text t)
  | list {mark : Option Nat} {items : List Value} (h : ∀ v ∈ items, Sound v) :
      Sound (.list mark items)
  | tuple {items : List Value} (h : ∀ v ∈ items, Sound v) : Sound (.tuple items)
  | object {entries : List (Text × Value)} (h : ∀ e ∈ entries, Sound e.2) : Sound (.object entries)
  | cls (c : ValueClass) : Sound (.cls c)
  | position {p : Position} (h : p.Sound) : Sound (.position p)
  | range {r : PositionRange} (h : r.Sound) : Sound (.range r)
  | config {mark : Option Nat} {checked level : Value} (hchecked : Sound checked)
      (hlevel : Sound level) : Sound (.config mark checked level)
  | report (mark : Nat) (kind : ReportKind) : Sound (.report mark kind)
  | logger (name : Text) : Sound (.logger name)

theorem of_lookup {α β : Type} [BEq α] [LawfulBEq α] {P : β → Prop} {entries : List (α × β)}
    {key : α} {b : β} (h : ∀ e ∈ entries, P e.2) (hb : entries.lookup key = some b) : P b := by
  obtain ⟨front, back, rfl, -⟩ := List.lookup_eq_some_iff.1 hb
  exact h (key, b) (List.mem_append_right front List.mem_cons_self)

theorem Value.sound_getD {items : List Value} (h : ∀ v ∈ items, v.Sound) (i : Nat) :
    (items.getD i .null).Sound := by
  rw [List.getD_eq_getElem?_getD]
  cases hv : items[i]? with
  | none => exact .null
  | some v => exact h v (List.mem_of_getElem? hv)

/-- Values under keys, all of them sound. -/
def SoundEntries (entries : List (Text × Value)) : Prop :=
  ∀ e ∈ entries, e.2.Sound

namespace SoundEntries

variable {entries rest : List (Text × Value)} {key : Text} {v : Value}

theorem nil : SoundEntries [] :=
  nofun

theorem cons (h : v.Sound) (hrest : SoundEntries rest) : SoundEntries ((key, v) :: rest) :=
  List.forall_mem_cons.2 ⟨h, hrest⟩

theorem append (h : SoundEntries entries) (hrest : SoundEntries rest) :
    SoundEntries (entries ++ rest) :=
  List.forall_mem_append.2 ⟨h, hrest⟩

end SoundEntries

/-! ## Error objects -/

/-- What an error object says, all of it sound. -/
structure Contents.Sound (c : Contents) : Prop where
  message : c.message.Sound
  hint : c.hint.Sound
  given : ∀ v ∈ c.given, v.Sound

/-- Error objects say nothing but sound values. -/
def Objects.Sound (o : Objects) : Prop :=
  ∀ e ∈ o.reports, e.2.Sound

namespace Objects

variable {o : Objects} {c : Contents} {mark : Nat}

theorem sound_initial : Sound .initial :=
  nofun

theorem Sound.contents (h : o.Sound) (mark : Nat) : (o.contents mark).Sound := by
  rw [Objects.contents]
  cases hc : o.reports.lookup mark with
  | none => exact ⟨.null, .null, nofun⟩
  | some c => exact of_lookup h hc

theorem Sound.withContents (h : o.Sound) (mark : Nat) (hc : c.Sound) :
    (o.withContents mark c).Sound :=
  List.forall_mem_cons.2 ⟨hc, fun e he => h e (List.mem_of_mem_filter he)⟩

end Objects

/-! ## Plain data -/

namespace Datum

mutual

theorem sound_toValue : (d : Datum) → d.toValue.Sound
  | .null => .null
  | .bool b => .bool b
  | .int n => .int n
  | .float x => .float none x
  | .text t => .text t
  | .list items => .list (sound_toValues items)
  | .object entries => .object (sound_toEntries entries)
  | .cls c => .cls c

theorem sound_toValues : (items : List Datum) → ∀ v ∈ toValues items, v.Sound
  | [] => nofun
  | d :: rest => List.forall_mem_cons.2 ⟨sound_toValue d, sound_toValues rest⟩

theorem sound_toEntries : (entries : List (Text × Datum)) → SoundEntries (toEntries entries)
  | [] => .nil
  | (_, d) :: rest => .cons (sound_toValue d) (sound_toEntries rest)

end

end Datum

namespace Value

variable {o : Objects} {v w : Value} {items : List Value}

theorem Sound.marked (h : v.Sound) (n : Nat) : (v.marked n).Sound := by
  cases h with
  | float mark x => cases mark <;> exact .float _ x
  | @list mark items h => cases mark <;> exact .list h
  | @config mark checked level hchecked hlevel => cases mark <;> exact .config hchecked hlevel
  | position h => exact .position h
  | range h => exact .range h
  | tuple h => exact .tuple h
  | object h => exact .object h
  | _ => constructor

theorem sound_texts {α : Type} (f : α → Text) (l : List α) :
    ∀ v ∈ l.map fun a => text (f a), v.Sound := by
  intro v hv
  obtain ⟨a, -, rfl⟩ := List.mem_map.1 hv
  exact .text (f a)

/-! ## Attributes -/

theorem sound_declared (home : Text) (fields own : List Text) :
    SoundEntries (declared home fields own) :=
  .cons (.tuple (sound_texts id fields))
    (.cons (.tuple (sound_texts id own)) (.cons (.text home) .nil))

theorem sound_positionAttributes : (k : Kind) → (p : k.Place) →
    SoundEntries (positionAttributes k p)
  | .byteIndex, _ => .cons (.int _) .nil
  | .rowColumn _, _ => .cons (.int _) (.cons (.int _) .nil)
  -- the parts of a composite are positions that are never watched
  | .composite, _ => .cons (.position trivial) (.cons (.position trivial) (.cons (.position trivial)
      (.cons (.bool _) (.cons (.int _) (.cons (.int _) (.cons (.int _) .nil))))))

theorem sound_origin (k : Kind) : (origin k).2.Sound :=
  .position (Position.sound_zero k)

theorem sound_integerAttributes (n : Int) : SoundEntries (integerAttributes n) :=
  .cons (.int n) (.cons (.int 0) (.cons (.int n) (.cons (.int 1) .nil)))

theorem sound_reportAttributes {c : Contents} (h : c.Sound) : SoundEntries (reportAttributes c) :=
  .cons h.message (.cons h.hint (.cons (.tuple h.given) (.cons .null (.cons .null
    (.cons (.bool false) (.cons .null (sound_declared _ _ _)))))))

theorem sound_loggerAttributes (log : Log) (name : Text) :
    SoundEntries (loggerAttributes log name) := by
  have hlevel : (ofLevel (log.logger name).level).Sound := by
    cases (log.logger name).level with
    | number n => exact .int n
    | flag b => exact .bool b
  have hparent : (((log.parent? name).map logger).getD null).Sound := by
    cases log.parent? name with
    | none => exact .null
    | some parent => exact .logger parent
  exact .cons (.text _) (.cons hlevel (.cons hparent (.cons (.logger _) (.cons (.bool true)
    (.cons (.bool false) (.cons (.list nofun) (.cons (.list (sound_texts LineFormat.written _))
      (.cons (.text _) .nil))))))))

theorem sound_classAttributes (c : ValueClass) : SoundEntries (classAttributes c) :=
  .cons (.text _) (.cons (.text _) (.cons (.text _) .nil))

/-- Whatever is read of a sound value is sound. -/
theorem sound_attributes (ho : o.Sound) (hv : v.Sound) : SoundEntries (v.attributes o) := by
  cases hv with
  | int n => exact sound_integerAttributes n
  | bool b => exact sound_integerAttributes b.toInt
  | float mark x => exact .cons (.float mark x) (.cons (.float none _) .nil)
  | list _ => exact .cons .null .nil
  | object _ => exact .cons .null .nil
  | @position p _ =>
    exact .cons (sound_origin p.kind)
      (.append (sound_positionAttributes p.kind p.place) (sound_declared _ _ _))
  | range h =>
    exact .cons (.position h.start) (.cons (.position h.stop) (sound_declared _ _ _))
  | config hchecked hlevel => exact .cons hchecked (.cons hlevel (sound_declared _ _ _))
  | report mark kind => exact sound_reportAttributes (ho.contents mark)
  | logger name => exact sound_loggerAttributes o.log name
  | cls c =>
    cases c with
    | kind k =>
      exact .cons (sound_origin k) (.append (sound_classAttributes _) (sound_declared _ _ _))
    | rowColumn => exact .append (sound_classAttributes _) (sound_declared _ _ _)
    | range => exact .append (sound_classAttributes _) (sound_declared _ _ _)
    | _ => exact sound_classAttributes _
  | _ => exact .nil

theorem ensures_get (ho : o.Sound) (hv : v.Sound) (name : Text) : Ensures Sound (v.get o name) := by
  rw [get]
  cases ha : (v.attributes o).lookup name with
  | none => exact .error _
  | some a => exact .ok (of_lookup (sound_attributes ho hv) ha)

/-- Error objects come to say nothing but what is assigned to them. -/
theorem ensures_assign (ho : o.Sound) (name : Text) (hw : w.Sound) (v : Value) :
    Ensures Objects.Sound (v.assign o name w) := by
  cases v with
  | report mark kind =>
    have hc := ho.contents mark
    refine .ite (.ok ?_) (.ite (.ok ?_) (.ok ho))
    · exact ho.withContents mark ⟨hw, hc.hint, hc.given⟩
    · exact ho.withContents mark ⟨hc.message, hw, hc.given⟩
  | logger name => exact .ok ho
  | position p => exact .ite (.error _) (.error _)
  | range r => exact .ite (.error _) (.error _)
  | config mark checked level => exact .ite (.error _) (.error _)
  | _ => exact .error _

/-! ## Ranges -/

theorem ensures_rangeOf (hv : v.Sound) (hw : w.Sound) :
    Ensures PositionRange.Sound (rangeOf v w) := by
  have hno (f g h : Fault) : Ensures PositionRange.Sound
      (if v.kindName ≠ w.kindName then .error f else if v.isPosition then .error g else .error h) :=
    .ite (.error f) (.ite (.error g) (.error h))
  cases hv with
  | position hp =>
    cases hw with
    | position hq => exact PositionRange.ensures_of hp hq
    | _ => exact hno _ _ _
  | _ => exact hno _ _ _

theorem ensures_zeroRange (v : Value) : Ensures PositionRange.Sound v.zeroRange := by
  cases v with
  | cls c =>
    cases c with
    | kind k => exact PositionRange.ensures_zero k
    | _ => exact .error _
  | _ => exact .error _

theorem ensures_rangeUpTo (hv : v.Sound) : Ensures PositionRange.Sound v.rangeUpTo := by
  cases hv with
  | position hp => exact PositionRange.ensures_upTo hp
  | _ => exact .error _

theorem ensures_editorRange (v : Value) :
    Ensures (Range.Sound (k := .rowColumn .utf16)) v.editorRange :=
  .next fun _ => .next fun _ => .next fun _ => .next fun _ => Range.ensures_of trivial trivial

/-! ## Choosing among items -/

theorem ensures_items? (hv : v.Sound) : Ensures (fun items => ∀ w ∈ items, w.Sound) v.items? := by
  cases hv with
  | list h => exact .ok h
  | tuple h => exact .ok h
  | text t => exact .ok (sound_texts (fun c => [c]) t)
  | @object entries h => exact .ok (sound_texts Prod.fst entries)
  | _ => exact .error _

theorem ensures_best (o : Objects) (c : Comparison) (hv : v.Sound) (hitems : ∀ w ∈ items, w.Sound) :
    Ensures Sound (best o c v items) := by
  induction items generalizing v with
  | nil => exact .ok hv
  | cons w rest ih =>
    obtain ⟨hw, hrest⟩ := List.forall_mem_cons.1 hitems
    exact .next fun _ => .ite (ih hw hrest) (ih hv hrest)

theorem ensures_greatest (o : Objects) (hv : v.Sound) : Ensures Sound (v.greatest o) := by
  refine (ensures_items? hv).bind fun items hitems => ?_
  cases items with
  | nil => exact .error _
  | cons a rest =>
    obtain ⟨ha, hrest⟩ := List.forall_mem_cons.1 hitems
    exact ensures_best o .gt ha hrest

theorem ensures_least (o : Objects) (hv : v.Sound) : Ensures Sound (v.least o) := by
  refine (ensures_items? hv).bind fun items hitems => ?_
  cases items with
  | nil => exact .error _
  | cons a rest =>
    obtain ⟨ha, hrest⟩ := List.forall_mem_cons.1 hitems
    exact ensures_best o .lt ha hrest

/-- Sorting answers items at some places. -/
theorem ensures_sort (o : Objects) (hv : v.Sound) : Ensures Sound (v.sort o) := by
  refine (ensures_items? hv).bind fun items hitems => ?_
  have hsorted : Ensures (fun items => ∀ w ∈ items, w.Sound) (sorted o items) := by
    refine .next fun places => .ok fun w hw => ?_
    obtain ⟨i, -, hi⟩ := List.mem_filterMap.1 hw
    rw [List.getElem?_toArray] at hi
    exact hitems w (List.mem_of_getElem? hi)
  exact hsorted.bind fun items hitems => .ok (.list hitems)

theorem ensures_distinct (v : Value) : Ensures Sound v.distinct := by
  refine .next fun items => ?_
  cases uncountableItem? items with
  | some kind => exact .error _
  | none => exact .ok (.int _)

end Value

end Caret
