-- The order of the arguments in a table decides which of them takes a token that several accept.
-- When the literals keep the arguments apart, no token is accepted by two, and then the order
-- decides nothing but the order in which repeated and missing arguments are told. This holds of
-- the tables of both steps, so what the steps make of the tokens does not depend on it.
import ArgTable.Proofs.Apart
import ArgTable.Proofs.Judgements
import Mathlib.Data.List.Perm.Basic

namespace ArgTable

/-! ## The same but for the order -/

/-- Both tell the same unknown tokens first, in the same order, and after them the same notices of
other kinds in some order. -/
def ToldAlike (notices others : List Notice) : Prop :=
  ∃ (strangers : List String) (rest rest' : List Notice),
    notices = strangers.map .unrecognized ++ rest ∧
      others = strangers.map .unrecognized ++ rest' ∧ rest.Perm rest' ∧
      ∀ token, .unrecognized token ∉ rest

theorem ToldAlike.perm {notices others : List Notice} (h : ToldAlike notices others) :
    notices.Perm others := by
  obtain ⟨strangers, rest, rest', rfl, rfl, hperm, -⟩ := h
  exact hperm.append_left _

/-- Both can go on with the same notices of other kinds. -/
theorem ToldAlike.append {notices others more : List Notice} (h : ToldAlike notices others)
    (hmore : ∀ notice ∈ more, notice.onTokens = false) :
    ToldAlike (notices ++ more) (others ++ more) := by
  obtain ⟨strangers, rest, rest', rfl, rfl, hperm, hknown⟩ := h
  refine ⟨strangers, rest ++ more, rest' ++ more, List.append_assoc .., List.append_assoc ..,
    hperm.append_right more, ?_⟩
  intro token hmem
  rcases List.mem_append.mp hmem with hmem | hmem
  · exact hknown token hmem
  · cases hmore _ hmem

/-- The same is read, and the same is told but for the order of the arguments. -/
structure Outcome.SameButOrder {ι : Type} (outcome other : Outcome ι) : Prop where
  success : outcome.success = other.success
  instances : outcome.instances = other.instances
  notices : ToldAlike outcome.notices other.notices
  trace : outcome.trace = other.trace

/-- The same is accepted and shown, and the same is told but for the order of the arguments. -/
structure Verdict.SameButOrder {α : Type} (verdict other : Verdict α) : Prop where
  accepted : verdict.accepted = other.accepted
  instances : verdict.instances = other.instances
  notices : ToldAlike verdict.notices other.notices
  trace : verdict.trace = other.trace

theorem JudgesByInstances.sameButOrder {α : Type} {judge : Outcome BuildArgument → Verdict α}
    (hjudge : JudgesByInstances judge) {outcome other : Outcome BuildArgument}
    (h : outcome.SameButOrder other) : (judge outcome).SameButOrder (judge other) := by
  obtain ⟨accepted, shown, more, records, hmore, houtcome, hother⟩ :=
    hjudge outcome other h.success h.instances
  rw [houtcome, hother]
  exact ⟨rfl, rfl, h.notices.append hmore, congrArg (· ++ records) h.trace⟩

/-! ## A table in another order -/

namespace Table

variable {ι : Type}

/-- The same arguments in another order. -/
def reordered (table : Table ι) (order : List ι) (h : table.order.Perm order) : Table ι :=
  { table with order, distinct := h.nodup_iff.mp table.distinct }

/-- No repeated and no missing argument is told as an unknown token. -/
theorem unrecognized_not_mem [DecidableEq ι] (table : Table ι) (tokens : List String)
    (token : String) : .unrecognized token ∉
      table.repeats (table.matched tokens) ++ table.missing (table.matched tokens) := by
  intro hmem
  rcases List.mem_append.mp hmem with hmem | hmem
  · obtain ⟨again, -, _, _, -, heq⟩ := exists_token_of_mem_repeats hmem
    cases heq
  · obtain ⟨name, -, -, heq⟩ := exists_name_of_mem_missing hmem
    cases heq

variable {table : Table ι} {order : List ι} (hperm : table.order.Perm order)

theorem repeats_reordered [DecidableEq ι] (found : List (String × Instance ι)) :
    (table.repeats found).Perm ((table.reordered order hperm).repeats found) :=
  hperm.flatMap_right (table.repeatsOf found)

theorem missing_reordered [DecidableEq ι] (found : List (String × Instance ι)) :
    (table.missing found).Perm ((table.reordered order hperm).missing found) :=
  (hperm.filter _).map _

theorem apart_reordered (h : table.Apart) : (table.reordered order hperm).Apart := by
  intro name hname other hother
  exact h name (hperm.mem_iff.mpr hname) other (hperm.mem_iff.mpr hother)

/-! ## Arguments that are apart -/

variable (h : table.Apart)
include h

theorem owner?_reordered (token : String) :
    (table.reordered order hperm).owner? token = table.owner? token := by
  ext name
  rw [h.owner?_eq_some_iff, (apart_reordered hperm h).owner?_eq_some_iff]
  exact and_congr_left fun _ => hperm.mem_iff.symm

theorem recognize?_reordered (token : String) :
    (table.reordered order hperm).recognize? token = table.recognize? token := by
  rw [recognize?_eq, recognize?_eq, owner?_reordered hperm h]
  rfl

theorem matched_reordered (tokens : List String) :
    (table.reordered order hperm).matched tokens = table.matched tokens := by
  unfold matched
  simp only [recognize?_reordered hperm h]

theorem strangers_reordered (tokens : List String) :
    (table.reordered order hperm).strangers tokens = table.strangers tokens := by
  unfold strangers
  simp only [recognize?_reordered hperm h]

theorem traceOf_reordered (token : String) :
    (table.reordered order hperm).traceOf token = table.traceOf token := by
  unfold traceOf
  rw [recognize?_reordered hperm h]
  rfl

variable [DecidableEq ι]

theorem notices_reordered (tokens : List String) :
    ToldAlike (table.notices tokens) ((table.reordered order hperm).notices tokens) := by
  refine ⟨if table.lenient then [] else table.strangers tokens,
    table.repeats (table.matched tokens) ++ table.missing (table.matched tokens), _, ?_, ?_,
    (repeats_reordered hperm _).append (missing_reordered hperm _),
    unrecognized_not_mem table tokens⟩
  · rw [notices_eq, List.append_assoc, apply_ite (List.map Notice.unrecognized)]
    rfl
  · rw [notices_eq, matched_reordered hperm h, strangers_reordered hperm h, List.append_assoc,
      apply_ite (List.map Notice.unrecognized)]
    rfl

/-- In another order the table reads the same in every list of tokens. -/
theorem parse_reordered (tokens : List String) :
    (table.parse tokens).SameButOrder ((table.reordered order hperm).parse tokens) := by
  have htold := notices_reordered hperm h tokens
  have hempty : (table.notices tokens).isEmpty =
      ((table.reordered order hperm).notices tokens).isEmpty := htold.perm.isEmpty_eq
  constructor
  · rw [success_eq, success_eq, hempty]
  · rw [instances_eq, instances_eq, hempty, matched_reordered hperm h]
  · exact htold
  · change table.trace tokens = (table.reordered order hperm).trace tokens
    rw [trace_eq, trace_eq, htold.perm.length_eq]
    congr 2
    funext token
    exact (traceOf_reordered hperm h token).symm

end Table

/-! ## The law -/

theorem Bootstrap.table_literalsApart : Bootstrap.table.LiteralsApart :=
  (Table.literalsApart_iff_apart _).mpr table_apart

theorem Preprocess.table_literalsApart : Preprocess.table.LiteralsApart :=
  (Table.literalsApart_iff_apart _).mpr table_apart

/-- Arguments that the literals keep apart never accept the same token, and their order decides
nothing but the order in which repeated and missing ones are told: in any other order they make a
table that reads the same. The arguments of both steps of the build are kept apart so, and each
step judges the same after a parse in another order. -/
theorem the_order_of_arguments_does_not_decide {ι : Type} [DecidableEq ι] (table : Table ι)
    (h : table.LiteralsApart) :
    (∀ token, ∀ name ∈ table.order, ∀ other ∈ table.order,
      ((table.argument name).accept? token).isSome = true →
        ((table.argument other).accept? token).isSome = true → name = other) ∧
    (∀ order, ∀ hperm : table.order.Perm order,
      Table.build table.argument order table.lenient = .ok (table.reordered order hperm) ∧
        ∀ tokens,
          (table.parse tokens).SameButOrder ((table.reordered order hperm).parse tokens)) ∧
    Bootstrap.table.LiteralsApart ∧ Preprocess.table.LiteralsApart ∧
    (∀ order, ∀ hperm : Bootstrap.table.order.Perm order, ∀ tokens,
      (Bootstrap.process tokens).SameButOrder
        (Bootstrap.judge tokens ((Bootstrap.table.reordered order hperm).parse tokens))) ∧
    ∀ order, ∀ hperm : Preprocess.table.order.Perm order, ∀ tokens,
      (Preprocess.process tokens).SameButOrder
        (Preprocess.judge ((Preprocess.table.reordered order hperm).parse tokens)) := by
  have hapart := (Table.literalsApart_iff_apart table).mp h
  refine ⟨?_, ?_, Bootstrap.table_literalsApart, Preprocess.table_literalsApart, ?_, ?_⟩
  · intro token name hname other hother hfirst hsecond
    rw [Argument.accept?, Form.accept?_eq] at hfirst hsecond
    exact hapart.accepts_unique hname hother (by simpa using hfirst) (by simpa using hsecond)
  · intro order hperm
    exact ⟨Table.build_eq_ok (table.reordered order hperm), Table.parse_reordered hperm hapart⟩
  · intro order hperm tokens
    exact (Bootstrap.judgesByInstances tokens).sameButOrder
      (Table.parse_reordered hperm Bootstrap.table_apart tokens)
  · intro order hperm tokens
    exact Preprocess.judgesByInstances.sameButOrder
      (Table.parse_reordered hperm Preprocess.table_apart tokens)

/-- With the arguments of the start turned around, a repeated verb is told after a repeated
settings file. -/
theorem arguments_turned_around_are_told_turned_around :
    let turned := Bootstrap.table.reordered _ (List.reverse_perm _).symm
    let tokens := ["end", "/s:a", "x", "end", "/s:b"]
    Bootstrap.table.LiteralsApart ∧
      (Bootstrap.table.parse tokens).SameButOrder (turned.parse tokens) ∧
      Bootstrap.table.notices tokens = [.repeated "end" "", .repeated "/s:b" "a"] ∧
      turned.notices tokens = [.repeated "/s:b" "a", .repeated "end" ""] := by
  obtain ⟨-, hreordered, hstart, -⟩ :=
    the_order_of_arguments_does_not_decide Bootstrap.table Bootstrap.table_literalsApart
  exact ⟨hstart, (hreordered _ (List.reverse_perm _).symm).2 _, by decide +kernel,
    by decide +kernel⟩

end ArgTable
