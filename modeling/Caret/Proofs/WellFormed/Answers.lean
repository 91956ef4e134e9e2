/-
  Well-formed answers, by what can be read of the positions and ranges in them.

  * `Position.WellFormed`: the fields of a position are numbers within the limit, or positions of
    the kinds that a composite has for parts; what is watched passes the check of consistency;
  * `PositionRange.WellFormed`: the ends of a range are of one kind and in order, by all measures if
    one of them is watched;
  * `Answer.WellFormed`, `Outcome.WellFormed`: all that is answered is so, also inside of other
    things;
  * `Value.ensures_answer`: what a value holds is what its answer holds.
-/
import Caret.Answer
import Caret.Proofs.WellFormed.Values

namespace Caret

/-! ## What is read of a value -/

namespace Value

/-- A number of a position: an integer, and no truth value, from zero up to the limit. -/
def IsCoordinate (v : Value) : Prop :=
  ∃ n : Int, v = int n ∧ 0 ≤ n ∧ n ≤ Coordinate.limit

/-- The attribute of a given name is there, whatever the objects are like, and has a property. -/
def Has (v : Value) (name : Text) (P : Value → Prop) : Prop :=
  ∀ o, ∃ a, v.get o name = .ok a ∧ P a

/-- A position of kind `k`, all fields of which are numbers. -/
def IsPart (k : Kind) (v : Value) : Prop :=
  (∃ p : k.Place, v = position ⟨k, p⟩) ∧
    ∀ name ∈ (ValueClass.kind k).fields, v.Has name IsCoordinate

theorem isCoordinate_ofCoordinate (a : Coordinate) : (ofCoordinate a).IsCoordinate :=
  ⟨a.val, rfl, Int.natCast_nonneg a.val, Int.ofNat_le.2 a.le_limit⟩

theorem isPart_byteIndex (p : ByteIndex) : (position ⟨.byteIndex, p⟩).IsPart .byteIndex := by
  refine ⟨⟨p, rfl⟩, List.forall_mem_cons.2 ⟨fun o => ⟨_, rfl, ?_⟩, nofun⟩⟩
  exact isCoordinate_ofCoordinate p.index

theorem isPart_rowColumn {u : ColumnUnit} (p : RowColumn u) :
    (position ⟨.rowColumn u, p⟩).IsPart (.rowColumn u) := by
  refine ⟨⟨p, rfl⟩, List.forall_mem_cons.2 ⟨fun o => ⟨_, rfl, ?_⟩,
    List.forall_mem_cons.2 ⟨fun o => ⟨_, rfl, ?_⟩, nofun⟩⟩⟩
  · exact isCoordinate_ofCoordinate p.row
  · exact isCoordinate_ofCoordinate p.column

end Value

/-! ## Positions and ranges -/

/-- The fields of a position are as they have to be. Those of a composite are positions of three
    kinds, and a truth value that says whether it is watched. If so, it is consistent. -/
def Position.WellFormed : Position → Prop
  | ⟨.byteIndex, p⟩ => (Value.position ⟨.byteIndex, p⟩).IsPart .byteIndex
  | ⟨.rowColumn u, p⟩ => (Value.position ⟨.rowColumn u, p⟩).IsPart (.rowColumn u)
  | ⟨.composite, c⟩ =>
    let v := Value.position ⟨.composite, c⟩
    v.Has "index" (Value.IsPart .byteIndex) ∧ v.Has "utf8" (Value.IsPart (.rowColumn .utf8)) ∧
      v.Has "utf16" (Value.IsPart (.rowColumn .utf16)) ∧
      v.Has "checked" fun a => ∃ b, a = .bool b ∧ (b = true → c.checkConsistency = .ok ())

theorem Position.Sound.wellFormed : {p : Position} → p.Sound → p.WellFormed
  | ⟨.byteIndex, p⟩, _ => Value.isPart_byteIndex p
  | ⟨.rowColumn _, p⟩, _ => Value.isPart_rowColumn p
  | ⟨.composite, c⟩, h => by
    refine ⟨fun o => ⟨_, rfl, Value.isPart_byteIndex c.index⟩,
      fun o => ⟨_, rfl, Value.isPart_rowColumn c.utf8⟩,
      fun o => ⟨_, rfl, Value.isPart_rowColumn c.utf16⟩,
      fun o => ⟨_, rfl, c.checked, rfl, fun hk => ?_⟩⟩
    exact Composite.checkConsistency_eq_ok_iff.2 (h hk)

/-- The ends of a range are well-formed positions of one kind, the numbers of which are in
    lexicographic order. If one of two composites is watched, their measures are ordered alike. -/
structure PositionRange.WellFormed (r : PositionRange) : Prop where
  /-- The start is well-formed. -/
  start : r.start.WellFormed
  /-- The end is well-formed. -/
  stop : r.stop.WellFormed
  /-- Both are of one kind. -/
  kind_eq : r.start.kind = r.stop.kind
  /-- The start is not behind the end. -/
  numbers_le : r.kind.numbers r.range.start ≤ r.kind.numbers r.range.stop
  /-- All measures order them in the same way, if one of them is watched. -/
  orderedAlike : ∀ a b : Composite, r = ⟨.composite, ⟨a, b⟩⟩ → (a.checked || b.checked) = true →
    a.OrderedAlike b

theorem PositionRange.Sound.wellFormed {r : PositionRange} (h : r.Sound) : r.WellFormed where
  start := Position.Sound.wellFormed h.start
  stop := Position.Sound.wellFormed h.stop
  kind_eq := rfl
  numbers_le := not_lt.1 fun hlt => h.valid.order_ne_gt (Kind.numbers_gt_iff.1 hlt)
  orderedAlike := by
    rintro a b rfl hk
    rw [Bool.or_comm] at hk
    exact (Composite.comparable_eq_ok_iff.1 h.valid.comparable_eq_ok hk).symm

/-! ## Answers -/

/-- An answer in which all positions and ranges are well-formed. -/
inductive Answer.WellFormed : Answer → Prop
  | null : WellFormed .null
  | bool (b : Bool) : WellFormed (.bool b)
  | int (n : Int) : WellFormed (.int n)
  | float (x : Binary64) : WellFormed (.float x)
  | text (t : Text) : WellFormed (.text t)
  | list {items : List Answer} (h : ∀ a ∈ items, WellFormed a) : WellFormed (.list items)
  | object {entries : List (Text × Answer)} (h : ∀ e ∈ entries, WellFormed e.2) :
      WellFormed (.object entries)
  | position {p : Position} (h : p.WellFormed) : WellFormed (.position p)
  | range {r : PositionRange} (h : r.WellFormed) : WellFormed (.range r)
  | config {checked level : Answer} (hchecked : WellFormed checked) (hlevel : WellFormed level) :
      WellFormed (.config checked level)
  | report (kind : ReportKind) {message hint : Answer} (hmessage : WellFormed message)
      (hhint : WellFormed hint) : WellFormed (.report kind message hint)
  | logger (g : Logger) : WellFormed (.logger g)

/-- What goes with an error object that is raised is well-formed. -/
def Refusal.WellFormed : Refusal → Prop
  | .fault _ => True
  | .raised _ _ hint => hint.WellFormed

/-- All that an outcome holds is well-formed. -/
def Outcome.WellFormed : Outcome → Prop
  | .ok a => a.WellFormed
  | .error refusal => refusal.WellFormed

namespace Value

variable {log : Log} {report : ReportAnswerer} {o : Objects} {v : Value}

theorem ensures_answerItems {items : List Value}
    (h : ∀ v ∈ items, Ensures Answer.WellFormed (answerWith log report v)) :
    Ensures (fun answers => ∀ a ∈ answers, a.WellFormed) (answerItems log report items) := by
  induction items with
  | nil => exact .ok nofun
  | cons v rest ih =>
    obtain ⟨hv, hrest⟩ := List.forall_mem_cons.1 h
    exact hv.bind fun a ha => (ih hrest).bind fun answers hanswers =>
      .ok (List.forall_mem_cons.2 ⟨ha, hanswers⟩)

theorem ensures_answerEntries {entries : List (Text × Value)}
    (h : ∀ e ∈ entries, Ensures Answer.WellFormed (answerWith log report e.2)) :
    Ensures (fun answers => ∀ e ∈ answers, e.2.WellFormed)
      (answerEntries log report entries) := by
  induction entries with
  | nil => exact .ok nofun
  | cons e rest ih =>
    obtain ⟨he, hrest⟩ := List.forall_mem_cons.1 h
    exact he.bind fun a ha => (ih hrest).bind fun answers hanswers =>
      .ok (List.forall_mem_cons.2 ⟨ha, hanswers⟩)

theorem ensures_answerWith
    (hreport : ∀ mark kind, Ensures Answer.WellFormed (report mark kind)) (hv : v.Sound) :
    Ensures Answer.WellFormed (answerWith log report v) := by
  induction hv with
  | null => exact .ok .null
  | bool b => exact .ok (.bool b)
  | int n => exact .ok (.int n)
  | float mark x => exact .ok (.float x)
  | text t => exact .ok (.text t)
  | list _ ih => exact (ensures_answerItems ih).bind fun _ h => .ok (.list h)
  | tuple _ ih => exact (ensures_answerItems ih).bind fun _ h => .ok (.list h)
  | object _ ih => exact (ensures_answerEntries ih).bind fun _ h => .ok (.object h)
  | cls c => exact .ok .null
  | position h => exact .ok (.position h.wellFormed)
  | range h => exact .ok (.range h.wellFormed)
  | config _ _ hchecked hlevel =>
    exact hchecked.bind fun _ hc => hlevel.bind fun _ hl => .ok (.config hc hl)
  | report mark kind => exact hreport mark kind
  | logger name => exact .ok (.logger _)

/-- What an error object says is as sound as anything, however deep it is entered. -/
theorem ensures_answerReport (ho : o.Sound) (depth mark : Nat) (kind : ReportKind) :
    Ensures Answer.WellFormed (answerReport o depth mark kind) := by
  induction depth generalizing mark kind with
  | zero => exact .error _
  | succ depth ih =>
    have hc := ho.contents mark
    refine (ensures_answerWith ih hc.message).bind fun message hmessage => ?_
    refine (ensures_answerWith ih hc.hint).bind fun hint hhint => ?_
    exact .ok (.report kind hmessage hhint)

theorem ensures_answer (ho : o.Sound) (hv : v.Sound) :
    Ensures Answer.WellFormed (v.answer o) :=
  ensures_answerWith (ensures_answerReport ho o.reports.length) hv

end Value

end Caret
