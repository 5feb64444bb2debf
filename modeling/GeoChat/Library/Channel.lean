import Mathlib.Data.List.Basic

/-!
# Request channels

A channel is a sequence of links, one of which is current. New operations start
on the current link. The requests written to a link are answered in their order,
each answer to a pending read. A link that was replaced keeps the operations
that it has pending.
-/

namespace GeoChat.Library

universe u

/-- A link with its pending operations. Requests stand oldest first. -/
structure Link (Request : Type u) where
  connects : Nat := 0
  isOpen : Bool := false
  /-- Requests whose write has not ended. -/
  writes : List Request := []
  /-- Written requests without an answer. -/
  asked : List Request := []
  reads : Nat := 0
  deriving DecidableEq, Repr

structure Channel (Request : Type u) where
  links : List (Link Request) := [{}]
  current : Nat := 0
  deriving DecidableEq, Repr

namespace Channel

variable {Request : Type u}

/-- Change one link. -/
def modify (channel : Channel Request) (index : Nat) (change : Link Request → Link Request) :
    Channel Request :=
  { channel with links := channel.links.modify index change }

/-- Replace the current link by a new one. -/
def create (channel : Channel Request) : Channel Request where
  links := channel.links ++ [{}]
  current := channel.links.length

def isOpen (channel : Channel Request) : Bool :=
  match channel.links[channel.current]? with
  | none => false
  | some link => link.isOpen

section Start

def connect (channel : Channel Request) : Channel Request :=
  channel.modify channel.current fun link => { link with connects := link.connects + 1 }

def write (channel : Channel Request) (request : Request) : Channel Request :=
  channel.modify channel.current fun link => { link with writes := link.writes ++ [request] }

def read (channel : Channel Request) : Channel Request :=
  channel.modify channel.current fun link => { link with reads := link.reads + 1 }

end Start

section End

/-- A link that is being connected is open. -/
def opened (channel : Channel Request) (index : Nat) : Option (Channel Request) :=
  match channel.links[index]? with
  | none => none
  | some link =>
      if link.connects = 0 then none
      else some (channel.modify index fun link => { link with isOpen := true })

/-- A connect ends. It does not succeed before the link is open. -/
def connected (channel : Channel Request) (index : Nat) (failed : Bool) :
    Option (Channel Request) :=
  match channel.links[index]? with
  | none => none
  | some link =>
      if link.connects = 0 || !(failed || link.isOpen) then none
      else some (channel.modify index fun link => { link with connects := link.connects - 1 })

/-- The oldest write ends. A request whose write failed is not answered. -/
def written (channel : Channel Request) (index : Nat) (failed : Bool) :
    Option (Channel Request) :=
  match channel.links[index]? with
  | none => none
  | some link =>
      match link.writes with
      | [] => none
      | request :: writes =>
          some (channel.modify index fun link =>
            { link with writes, asked := if failed then link.asked else link.asked ++ [request] })

/-- A read ends, with data or with an error. -/
def readEnds (channel : Channel Request) (index : Nat) : Option (Channel Request) :=
  match channel.links[index]? with
  | none => none
  | some link =>
      if link.reads = 0 then none
      else some (channel.modify index fun link => { link with reads := link.reads - 1 })

/-- A read ends with the answer to the oldest request. -/
def answered (channel : Channel Request) (index : Nat) : Option (Request × Channel Request) :=
  match channel.links[index]? with
  | none => none
  | some link =>
      match link.asked with
      | [] => none
      | request :: asked =>
          if link.reads = 0 then none
          else some (request, channel.modify index fun link =>
            { link with asked, reads := link.reads - 1 })

variable {channel next : Channel Request} {index : Nat} {failed : Bool}

theorem opened_eq (ended : channel.opened index = some next) :
    next = channel.modify index fun link => { link with isOpen := true } := by
  unfold opened at ended
  split at ended
  next => cases ended
  next =>
    split at ended
    next => cases ended
    next => exact (Option.some.inj ended).symm

theorem connected_eq (ended : channel.connected index failed = some next) :
    next = channel.modify index fun link => { link with connects := link.connects - 1 } := by
  unfold connected at ended
  split at ended
  next => cases ended
  next =>
    split at ended
    next => cases ended
    next => exact (Option.some.inj ended).symm

theorem written_eq (ended : channel.written index failed = some next) :
    ∃ link request writes, channel.links[index]? = some link ∧ link.writes = request :: writes ∧
      next = channel.modify index fun link =>
        { link with writes, asked := if failed then link.asked else link.asked ++ [request] } := by
  unfold written at ended
  split at ended
  next => cases ended
  next link found =>
    split at ended
    next => cases ended
    next request writes waiting =>
      exact ⟨link, request, writes, found, waiting, (Option.some.inj ended).symm⟩

theorem readEnds_eq (ended : channel.readEnds index = some next) :
    next = channel.modify index fun link => { link with reads := link.reads - 1 } := by
  unfold readEnds at ended
  split at ended
  next => cases ended
  next =>
    split at ended
    next => cases ended
    next => exact (Option.some.inj ended).symm

/-- A write that ends leaves no request on its link that was not there. -/
theorem written_subset {link : Link Request} {request : Request} {writes : List Request}
    (waiting : link.writes = request :: writes) (failed : Bool) :
    (if failed then link.asked else link.asked ++ [request]) ++ writes ⊆
      link.asked ++ link.writes := by
  rw [waiting]
  cases failed with
  | false => simp
  | true =>
      intro entry member
      rcases List.mem_append.mp member with inAsked | inWrites
      · exact List.mem_append_left _ inAsked
      · exact List.mem_append_right _ (List.mem_cons_of_mem _ inWrites)

end End

section Pending

/-- The requests that an answer can still come to: no read starts on a link
that is not current. -/
def pendingAt (current index : Nat) (link : Link Request) : List Request :=
  if index = current ∨ 0 < link.reads then link.asked ++ link.writes else []

def pending (channel : Channel Request) : List Request :=
  channel.links.zipIdx.flatMap fun (link, index) => pendingAt channel.current index link

theorem mem_pendingAt {current index : Nat} {link : Link Request} {request : Request} :
    request ∈ pendingAt current index link ↔
      (index = current ∨ 0 < link.reads) ∧ request ∈ link.asked ++ link.writes := by
  unfold pendingAt
  by_cases awaited : index = current ∨ 0 < link.reads
  · rw [if_pos awaited, and_iff_right awaited]
  · rw [if_neg awaited]
    exact ⟨fun member => absurd member List.not_mem_nil, fun both => absurd both.1 awaited⟩

theorem mem_pending {channel : Channel Request} {request : Request} :
    request ∈ channel.pending ↔ ∃ index link, channel.links[index]? = some link ∧
      request ∈ pendingAt channel.current index link := by
  simp only [pending, List.mem_flatMap, Prod.exists, List.mem_zipIdx_iff_getElem?]
  exact ⟨fun ⟨link, index, found, member⟩ => ⟨index, link, found, member⟩,
    fun ⟨index, link, found, member⟩ => ⟨link, index, found, member⟩⟩

/-- A change of one link. -/
theorem mem_pending_modify {channel : Channel Request} {index : Nat}
    {change : Link Request → Link Request} {request : Request}
    (member : request ∈ (channel.modify index change).pending) :
    request ∈ channel.pending ∨ ∃ link, channel.links[index]? = some link ∧
      request ∈ pendingAt channel.current index (change link) := by
  rcases mem_pending.mp member with ⟨position, link, found, awaited⟩
  rw [modify, List.getElem?_modify] at found
  rcases Option.map_eq_some_iff.mp found with ⟨before, foundBefore, rfl⟩
  by_cases same : index = position
  · subst same
    rw [if_pos rfl] at awaited
    exact .inr ⟨before, foundBefore, awaited⟩
  · rw [if_neg same] at awaited
    exact .inl (mem_pending.mpr ⟨position, before, foundBefore, awaited⟩)

/-- A change that adds no request to its link and starts no read there. -/
theorem pending_modify_subset {channel : Channel Request} {index : Nat}
    {change : Link Request → Link Request}
    (smaller : ∀ link, channel.links[index]? = some link →
      pendingAt channel.current index (change link) ⊆ pendingAt channel.current index link) :
    (channel.modify index change).pending ⊆ channel.pending := by
  intro request member
  rcases mem_pending_modify member with before | ⟨link, found, changed⟩
  · exact before
  · exact mem_pending.mpr ⟨index, link, found, smaller link found changed⟩

theorem pending_create_subset (channel : Channel Request) :
    channel.create.pending ⊆ channel.pending := by
  intro request member
  rcases mem_pending.mp member with ⟨index, link, found, awaited⟩
  rcases mem_pendingAt.mp awaited with ⟨reason, held⟩
  by_cases older : index < channel.links.length
  · rw [create, List.getElem?_append_left older] at found
    have reading := reason.resolve_left (Nat.ne_of_lt older)
    exact mem_pending.mpr ⟨index, link, found, mem_pendingAt.mpr ⟨.inr reading, held⟩⟩
  · rw [create, List.getElem?_append_right (Nat.le_of_not_lt older)] at found
    cases List.mem_singleton.mp (List.mem_of_getElem? found)
    cases held

theorem pending_connect_subset (channel : Channel Request) :
    channel.connect.pending ⊆ channel.pending :=
  pending_modify_subset fun _ _ _ member => member

theorem mem_pending_write {channel : Channel Request} {request sent : Request}
    (member : request ∈ (channel.write sent).pending) :
    request ∈ channel.pending ∨ request = sent := by
  rcases mem_pending_modify member with before | ⟨link, found, changed⟩
  · exact .inl before
  · have held := (mem_pendingAt.mp changed).2
    rw [← List.append_assoc] at held
    rcases List.mem_append.mp held with older | new
    · exact .inl (mem_pending.mpr ⟨_, link, found, mem_pendingAt.mpr ⟨.inl rfl, older⟩⟩)
    · exact .inr (List.mem_singleton.mp new)

theorem pending_read_subset (channel : Channel Request) :
    channel.read.pending ⊆ channel.pending :=
  pending_modify_subset fun _ _ _ member =>
    mem_pendingAt.mpr ⟨.inl rfl, (mem_pendingAt.mp member).2⟩

variable {channel next : Channel Request} {index : Nat}

theorem pending_opened_subset (ended : channel.opened index = some next) :
    next.pending ⊆ channel.pending := by
  rw [opened_eq ended]
  exact pending_modify_subset fun _ _ _ member => member

theorem pending_connected_subset {failed : Bool}
    (ended : channel.connected index failed = some next) : next.pending ⊆ channel.pending := by
  rw [connected_eq ended]
  exact pending_modify_subset fun _ _ _ member => member

theorem pending_written_subset {failed : Bool}
    (ended : channel.written index failed = some next) : next.pending ⊆ channel.pending := by
  obtain ⟨link, request, writes, found, waiting, rfl⟩ := written_eq ended
  refine pending_modify_subset fun other foundOther entry member => ?_
  cases found.symm.trans foundOther
  obtain ⟨reason, held⟩ := mem_pendingAt.mp member
  exact mem_pendingAt.mpr ⟨reason, written_subset waiting failed held⟩

theorem pending_readEnds_subset (ended : channel.readEnds index = some next) :
    next.pending ⊆ channel.pending := by
  rw [readEnds_eq ended]
  refine pending_modify_subset fun link _ entry member => ?_
  obtain ⟨reason, held⟩ := mem_pendingAt.mp member
  have awaited := reason.imp_right fun positive : 0 < link.reads - 1 =>
    Nat.lt_of_lt_of_le positive (Nat.sub_le _ _)
  exact mem_pendingAt.mpr ⟨awaited, held⟩

/-- The answered request was pending, and no request becomes pending. -/
theorem answered_pending {request : Request}
    (ended : channel.answered index = some (request, next)) :
    request ∈ channel.pending ∧ next.pending ⊆ channel.pending := by
  unfold answered at ended
  split at ended
  next => cases ended
  next link found =>
    split at ended
    next => cases ended
    next oldest asked waiting =>
      split at ended
      next => cases ended
      next reading =>
        cases ended
        have awaited : index = channel.current ∨ 0 < link.reads :=
          .inr (Nat.pos_of_ne_zero reading)
        constructor
        · refine mem_pending.mpr ⟨index, link, found, mem_pendingAt.mpr ⟨awaited, ?_⟩⟩
          rw [waiting]
          exact List.mem_cons_self
        · refine pending_modify_subset fun other foundOther entry member => ?_
          cases found.symm.trans foundOther
          refine mem_pendingAt.mpr ⟨awaited, ?_⟩
          rw [waiting]
          exact List.mem_cons_of_mem _ (mem_pendingAt.mp member).2

end Pending

section Held

/-- The requests of the current link that have no answer, oldest first. -/
def held (channel : Channel Request) : List Request :=
  match channel.links[channel.current]? with
  | none => []
  | some link => link.asked ++ link.writes

theorem mem_held {channel : Channel Request} {request : Request} :
    request ∈ channel.held ↔ ∃ link, channel.links[channel.current]? = some link ∧
      request ∈ link.asked ++ link.writes := by
  unfold held
  split
  next absent => simp [absent]
  next link found =>
    rw [found]
    exact ⟨fun member => ⟨link, rfl, member⟩, fun ⟨_, same, member⟩ => by cases same; exact member⟩

theorem held_create (channel : Channel Request) : channel.create.held = [] := by
  simp [held, create]

/-- A change of one link. -/
theorem mem_held_modify {channel : Channel Request} {index : Nat}
    {change : Link Request → Link Request} {request : Request}
    (member : request ∈ (channel.modify index change).held) :
    request ∈ channel.held ∨ ∃ link, channel.links[index]? = some link ∧
      index = channel.current ∧ request ∈ (change link).asked ++ (change link).writes := by
  obtain ⟨link, found, kept⟩ := mem_held.mp member
  rw [modify, List.getElem?_modify] at found
  obtain ⟨before, foundBefore, rfl⟩ := Option.map_eq_some_iff.mp found
  by_cases same : index = channel.current
  · rw [if_pos same] at kept
    exact .inr ⟨before, same ▸ foundBefore, same, kept⟩
  · rw [if_neg same] at kept
    exact .inl (mem_held.mpr ⟨before, foundBefore, kept⟩)

theorem held_modify_subset {channel : Channel Request} {index : Nat}
    {change : Link Request → Link Request}
    (smaller : ∀ link, channel.links[index]? = some link →
      (change link).asked ++ (change link).writes ⊆ link.asked ++ link.writes) :
    (channel.modify index change).held ⊆ channel.held := by
  intro request member
  obtain before | ⟨link, found, rfl, changed⟩ := mem_held_modify member
  · exact before
  · exact mem_held.mpr ⟨link, found, smaller link found changed⟩

theorem held_connect_subset (channel : Channel Request) : channel.connect.held ⊆ channel.held :=
  held_modify_subset fun _ _ _ member => member

theorem held_read_subset (channel : Channel Request) : channel.read.held ⊆ channel.held :=
  held_modify_subset fun _ _ _ member => member

theorem mem_held_write {channel : Channel Request} {request sent : Request}
    (member : request ∈ (channel.write sent).held) : request ∈ channel.held ∨ request = sent := by
  obtain before | ⟨link, found, -, changed⟩ := mem_held_modify member
  · exact .inl before
  · rw [← List.append_assoc] at changed
    obtain older | new := List.mem_append.mp changed
    · exact .inl (mem_held.mpr ⟨link, found, older⟩)
    · exact .inr (List.mem_singleton.mp new)

variable {channel next : Channel Request} {index : Nat} {failed : Bool}

theorem held_opened_subset (ended : channel.opened index = some next) :
    next.held ⊆ channel.held := by
  rw [opened_eq ended]
  exact held_modify_subset fun _ _ _ member => member

theorem held_connected_subset (ended : channel.connected index failed = some next) :
    next.held ⊆ channel.held := by
  rw [connected_eq ended]
  exact held_modify_subset fun _ _ _ member => member

theorem held_written_subset (ended : channel.written index failed = some next) :
    next.held ⊆ channel.held := by
  obtain ⟨link, request, writes, found, waiting, rfl⟩ := written_eq ended
  refine held_modify_subset fun other foundOther => ?_
  cases found.symm.trans foundOther
  exact written_subset waiting failed

theorem held_readEnds_subset (ended : channel.readEnds index = some next) :
    next.held ⊆ channel.held := by
  rw [readEnds_eq ended]
  exact held_modify_subset fun _ _ _ member => member

end Held

end Channel

end GeoChat.Library
