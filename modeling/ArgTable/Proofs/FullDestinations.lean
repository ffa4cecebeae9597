-- What becomes of the output when its destination runs full. Writing never goes back and never
-- goes on behind a byte that found no room, so what is taken is a first part of all that there
-- is to write, as long as the room. It does not matter into which texts the output is cut, nor
-- how much of a text the destination takes at a time.
import ArgTable.Presentation
import Mathlib.Logic.Relation

namespace ArgTable

theorem bytesOf_append (text more : String) :
    bytesOf (text ++ more) = bytesOf text ++ bytesOf more := by
  simp [bytesOf]

theorem bytesOf_join (texts : List String) :
    bytesOf (String.join texts) = (texts.map bytesOf).flatten := by
  induction texts with
  | nil => rfl
  | cons text texts ih =>
    rw [String.join_cons, bytesOf_append, ih, List.map_cons, List.flatten_cons]

namespace Delivery

/-- What a destination with this much room takes of the bytes. -/
def ofBytes (room : Nat) (bytes : List UInt8) : Delivery :=
  if bytes.length ≤ room then ⟨bytes, true⟩ else ⟨bytes.take room, false⟩

theorem complete_ofBytes (room : Nat) (bytes : List UInt8) :
    (ofBytes room bytes).complete = true ↔ bytes.length ≤ room := by
  unfold ofBytes
  split <;> simp [*]

theorem accepted_ofBytes (room : Nat) (bytes : List UInt8) :
    (ofBytes room bytes).accepted = bytes.take room := by
  unfold ofBytes
  split
  · next hfit => rw [List.take_of_length_le hfit]
  · rfl

/-! ## Text by text -/

theorem deliver_none (texts : List String) :
    deliver none texts = ⟨bytesOf (String.join texts), true⟩ := by
  rw [bytesOf_join]
  induction texts with
  | nil => rfl
  | cons text texts ih => rw [deliver, ih, List.map_cons, List.flatten_cons]

/-- The first bytes take their part of the room, and the rest have what is left. -/
theorem ofBytes_append (room : Nat) (bytes more : List UInt8) (hfit : bytes.length ≤ room) :
    ofBytes room (bytes ++ more) =
      ⟨bytes ++ (ofBytes (room - bytes.length) more).accepted,
        (ofBytes (room - bytes.length) more).complete⟩ := by
  unfold ofBytes
  rw [List.length_append]
  by_cases hmore : more.length ≤ room - bytes.length
  · rw [if_pos hmore, if_pos (by omega)]
  · rw [if_neg hmore, if_neg (by omega), List.take_append, List.take_of_length_le hfit]

/-- Bytes that do not fit leave nothing for those behind them. -/
theorem ofBytes_append_of_lt (room : Nat) (bytes more : List UInt8) (hfull : room < bytes.length) :
    ofBytes room (bytes ++ more) = ⟨bytes.take room, false⟩ := by
  unfold ofBytes
  rw [if_neg (by rw [List.length_append]; omega),
    List.take_append_of_le_length (Nat.le_of_lt hfull)]

theorem deliver_some (room : Nat) (texts : List String) :
    deliver (some room) texts = ofBytes room (bytesOf (String.join texts)) := by
  rw [bytesOf_join]
  induction texts generalizing room with
  | nil => rfl
  | cons text texts ih =>
    rw [deliver, List.map_cons, List.flatten_cons]
    by_cases hfit : (bytesOf text).length ≤ room
    · rw [if_pos hfit, ih, ofBytes_append room _ _ hfit]
    · rw [if_neg hfit, ofBytes_append_of_lt room _ _ (Nat.lt_of_not_le hfit)]

end Delivery

/-! ## Some bytes at a time -/

/-- A destination in the middle of writing: the room that is left, what it took so far, and
the parts that wait to be written. -/
structure Writing where
  room : Nat
  accepted : List UInt8
  waiting : List (List UInt8)

namespace Writing

/-- What has come of the writing so far. -/
def delivery (writing : Writing) : Delivery := ⟨writing.accepted, writing.waiting.isEmpty⟩

/-- One thing that a destination may do. Of the first part it takes some bytes, as many as it
likes of those that it has room for, and behind an empty part it goes on. -/
inductive Step : Writing → Writing → Prop
  | accept {room accepted bytes waiting} (count : Nat) (some_bytes : 0 < count)
      (has_room : count ≤ room) (are_there : count ≤ bytes.length) :
      Step ⟨room, accepted, bytes :: waiting⟩
        ⟨room - count, accepted ++ bytes.take count, bytes.drop count :: waiting⟩
  | next {room accepted waiting} :
      Step ⟨room, accepted, [] :: waiting⟩ ⟨room, accepted, waiting⟩

/-- The destination goes from one state to the other in some number of steps. -/
def Runs : Writing → Writing → Prop := Relation.ReflTransGen Step

/-- Nothing more happens. Either all is written or the room is used up. -/
def Stopped (writing : Writing) : Prop := ∀ later, ¬ Step writing later

/-- No byte is skipped or written twice, and the room is used by what is taken. -/
structure Conserves (first last : Writing) : Prop where
  bytes : last.accepted ++ last.waiting.flatten = first.accepted ++ first.waiting.flatten
  room : last.room + last.accepted.length = first.room + first.accepted.length

theorem conserves_of_step {writing later : Writing} (h : Step writing later) :
    Conserves writing later := by
  cases h with
  | @accept room accepted bytes waiting count some_bytes has_room are_there =>
    constructor
    · rw [List.flatten_cons, List.flatten_cons, List.append_assoc,
        ← List.append_assoc (bytes.take count), List.take_append_drop]
    · dsimp only
      rw [List.length_append, List.length_take]
      omega
  | next => exact ⟨rfl, rfl⟩

theorem conserves_of_runs {first last : Writing} (h : Runs first last) : Conserves first last := by
  induction h with
  | refl => exact ⟨rfl, rfl⟩
  | tail _ hstep ih =>
    have hone := conserves_of_step hstep
    exact ⟨hone.bytes.trans ih.bytes, hone.room.trans ih.room⟩

/-- Writing stops with nothing waiting, or with a byte that waits and no room for it. -/
theorem waiting_of_stopped {writing : Writing} (h : writing.Stopped) :
    writing.waiting = [] ∨ writing.waiting.flatten ≠ [] ∧ writing.room = 0 := by
  obtain ⟨room, accepted, waiting⟩ := writing
  rcases waiting with _ | ⟨bytes, waiting⟩
  · exact Or.inl rfl
  · right
    have hbytes : bytes ≠ [] := by
      rintro rfl
      exact h _ Step.next
    have hlength := List.length_pos_iff.mpr hbytes
    refine ⟨by simp [hbytes], ?_⟩
    rcases Nat.eq_zero_or_pos room with hzero | hroom
    · exact hzero
    · exact absurd (Step.accept 1 Nat.one_pos hroom hlength) (h _)

/-- Wherever the parts end and however many bytes go at a time, a destination that stops took
what it had room for. -/
theorem delivery_of_stopped {room : Nat} {parts : List (List UInt8)} {last : Writing}
    (hruns : Runs ⟨room, [], parts⟩ last) (hstopped : last.Stopped) :
    last.delivery = Delivery.ofBytes room parts.flatten := by
  have hconserves := conserves_of_runs hruns
  have hbytes : last.accepted ++ last.waiting.flatten = parts.flatten := hconserves.bytes
  have hroom : last.room + last.accepted.length = room := hconserves.room
  unfold delivery Delivery.ofBytes
  rw [← hbytes, List.length_append]
  -- what was taken and what waits are all there is, so where nothing waits all was taken, and
  -- where no room is left as much was taken as there was room
  rcases waiting_of_stopped hstopped with hdone | ⟨hleft, hfull⟩
  · rw [hdone, List.flatten_nil, List.append_nil, List.length_nil, if_pos (by omega)]
    rfl
  · have hwaiting : last.waiting ≠ [] := by
      intro hdone
      exact hleft (by rw [hdone, List.flatten_nil])
    have hpos := List.length_pos_iff.mpr hleft
    have htake : room = last.accepted.length := by omega
    rw [if_neg (by omega), htake, List.take_left, List.isEmpty_eq_false_iff.mpr hwaiting]

/-- Writing comes to an end. Each step leaves fewer bytes and parts. -/
theorem exists_stopped (writing : Writing) : ∃ last, Runs writing last ∧ last.Stopped := by
  induction hsize : writing.waiting.length + writing.waiting.flatten.length
    using Nat.strongRecOn generalizing writing with
  | _ size ih =>
    by_cases hstopped : writing.Stopped
    · exact ⟨writing, Relation.ReflTransGen.refl, hstopped⟩
    · obtain ⟨later, hstep⟩ := Classical.not_forall_not.mp hstopped
      have hless : later.waiting.length + later.waiting.flatten.length < size := by
        subst hsize
        cases hstep with
        | accept count some_bytes has_room are_there =>
          simp only [List.length_cons, List.flatten_cons, List.length_append, List.length_drop]
          omega
        | next => simp
      obtain ⟨last, hruns, hlast⟩ := ih _ hless later rfl
      exact ⟨last, Relation.ReflTransGen.head hstep hruns, hlast⟩

end Writing

/-! ## Reports and help -/

namespace Presentation

/-- With room for everything all is written. With less, the output takes as many of its first
bytes as there is room for, and it ends well exactly when these are all. So does every
destination that writes the same bytes in parts of its own choice. The log is the same for
every room. -/
structure EndsWithTheRoom (presentation : Presentation) : Prop where
  unlimited : (presentation.writeTo none).delivery = ⟨bytesOf presentation.output, true⟩
  complete : ∀ room, (presentation.writeTo (some room)).delivery.complete = true ↔
    (bytesOf presentation.output).length ≤ room
  accepted : ∀ room, (presentation.writeTo (some room)).delivery.accepted =
    (bytesOf presentation.output).take room
  stepwise : ∀ room parts, parts.flatten = bytesOf presentation.output →
    (∃ last, Writing.Runs ⟨room, [], parts⟩ last ∧ last.Stopped) ∧
    ∀ last, Writing.Runs ⟨room, [], parts⟩ last → last.Stopped →
      last.delivery = (presentation.writeTo (some room)).delivery
  logs : ∀ room, (presentation.writeTo room).logs = (presentation.writeTo none).logs

theorem endsWithTheRoom (presentation : Presentation) : presentation.EndsWithTheRoom := by
  have hdelivery : ∀ room, (presentation.writeTo (some room)).delivery =
      Delivery.ofBytes room (bytesOf presentation.output) :=
    fun room => Delivery.deliver_some room presentation.pieces
  refine ⟨Delivery.deliver_none presentation.pieces, ?_, ?_, ?_, fun _ => rfl⟩
  · intro room
    rw [hdelivery, Delivery.complete_ofBytes]
  · intro room
    rw [hdelivery, Delivery.accepted_ofBytes]
  · intro room parts hparts
    refine ⟨Writing.exists_stopped _, ?_⟩
    intro last hruns hstopped
    rw [hdelivery, ← hparts]
    exact Writing.delivery_of_stopped hruns hstopped

/-- Whatever is shown, the output ends where the room does, and no sooner. A failed report in
plain format ends well in no room at all. -/
theorem the_output_ends_where_the_room_does (display : Display) :
    (∀ report, (ofReport display report).EndsWithTheRoom) ∧
    (∀ mode lines, (ofUsage display mode lines).EndsWithTheRoom) ∧
    ∀ report room, display.format = .plain → report.success = false →
      ((ofReport display report).writeTo room).delivery = ⟨[], true⟩ := by
  refine ⟨fun _ => endsWithTheRoom _, fun _ _ => endsWithTheRoom _, ?_⟩
  intro report room hplain hfailed
  have hpieces : (ofReport display report).pieces = [] := by
    simp [ofReport, hplain, hfailed]
  unfold writeTo
  rw [hpieces]
  cases room <;> rfl

end Presentation

end ArgTable
