/-
The ids on a session list are distinct, over any interleaving of opens, closes and
close threads, as long as the TEE hands out no id that is open.
-/

import TzDriver.Lib.Names
import TzDriver.Session.Registers

namespace TzDriver.Session

open TzDriver.Lib

/-! ### The names behind the lists -/

def Point.takes {Dev : Type} : Point Dev → Option (Nat × UInt32)
  | .opened _ service sessionId => some (service, sessionId)
  | _ => none

/-- The session lists as places whose keeper is the thread inside `operation_lock`. -/
structure Shows {Dev : Type} (state : Requests Dev) (names : Names Nat Nat UInt32) : Prop where
  items : ∀ service, names.items service = {session | session ∈ state.tables.registers.list service}
  name : names.name = state.tables.registers.ids
  taken : Marks Point.takes state.points names.taken
  leaving : Marks Point.leaves state.points names.leaving
  out : names.out = ↑state.live

structure Good {Dev : Type} (state : Requests Dev) : Prop where
  owners : ∀ {dev index service session remaining count},
    .fdClosed dev index service session remaining count ∈ state.points →
      state.tables.registers.owner session = some dev
  names : ∃ names, Shows state names ∧ names.Distinct

/-- The TEE answers no open with an id that is open. -/
def FreshIds {Dev : Type} (state : Requests Dev) : Move Dev → Prop
  | .openAnswer _ _ (.success sessionId) => sessionId ∉ state.live
  | _ => True

section Good

variable {Dev : Type} [DecidableEq Dev] [Fintype Dev] {state : Requests Dev} {point : Point Dev}
  {rest : Multiset (Point Dev)} {service session : Nat}

omit [Fintype Dev] in
theorem Point.inside_of_takes {sessionId : UInt32} (takes : point.takes = some (service, sessionId)) :
    0 < point.thread.locks.2.1 service := by
  cases point with
  | opened dev target other =>
      cases takes
      simp [Point.thread, insideOperation]
  | _ => cases takes

omit [Fintype Dev] in
theorem Point.inside_of_leaves (leaves : point.leaves = some (service, session)) :
    0 < point.thread.locks.2.1 service := by
  cases point with
  | closed dev target other =>
      cases leaves
      simp [Point.thread, insideOperation]
  | fdClosed dev index target other remaining count =>
      cases leaves
      simp [Point.thread, insideOperation, closerOf]
  | _ => cases leaves

theorem Invariant.alone (invariant : Invariant state.world) (split : state.points = point ::ₘ rest)
    (inside : 0 < point.thread.locks.2.1 service) {other : Point Dev} (member : other ∈ rest) :
    other.thread.locks.2.1 service = 0 := by
  obtain ⟨remaining, rfl⟩ := Multiset.exists_cons_of_mem member
  have locks := invariant.locks
  change LockCounts _ (locksOf (state.points.map Point.thread)) at locks
  rw [split, Multiset.cons_swap, Multiset.map_cons, Multiset.map_cons, locksOf_cons,
    locksOf_cons] at locks
  exact locks.outside_operation service inside

theorem Invariant.alone_taken (invariant : Invariant state.world)
    (split : state.points = point ::ₘ rest) (inside : 0 < point.thread.locks.2.1 service)
    (other : Point Dev) (member : other ∈ rest) (sessionId : UInt32) :
    other.takes ≠ some (service, sessionId) := by
  intro takes
  have outside := invariant.alone split inside member
  have within := Point.inside_of_takes takes
  omega

theorem Invariant.alone_leaving (invariant : Invariant state.world)
    (split : state.points = point ::ₘ rest) (inside : 0 < point.thread.locks.2.1 service)
    (other : Point Dev) (member : other ∈ rest) (session : Nat) :
    other.leaves ≠ some (service, session) := by
  intro leaves
  have outside := invariant.alone split inside member
  have within := Point.inside_of_leaves leaves
  omega

/-- While another thread is inside, no session leaves. -/
theorem Shows.idle {names : Names Nat Nat UInt32} (shows : Shows state names)
    (invariant : Invariant state.world) (split : state.points = point ::ₘ rest)
    (inside : 0 < point.thread.locks.2.1 service) (stays : point.leaves = none) :
    names.leaving service = none := by
  rw [Option.eq_none_iff_forall_not_mem]
  intro other leaving
  obtain ⟨leaver, member, leaves⟩ := (shows.leaving service other).mp leaving
  rw [split] at member
  rcases Multiset.mem_cons.mp member with rfl | elsewhere
  · rw [stays] at leaves
    cases leaves
  · exact invariant.alone_leaving split inside leaver elsewhere other leaves

/-! ### One step -/

theorem Invariant.fdClosed_listed (invariant : Invariant state.world) {dev : Dev} {index count : Nat}
    {remaining : List Nat}
    (present : .fdClosed dev index service session remaining count ∈ state.points) :
    session < state.tables.registers.count := by
  have facts := (invariant.facts _ (Multiset.mem_map_of_mem Point.thread present)).facts
  have member := facts.2.members session List.mem_cons_self
  have sessions := invariant.counted.sessions
  exact sessions.lt_sessionCount (sessions.usage_pos_of_mem member)

omit [Fintype Dev] in
theorem Requests.points_ran (split : state.points = point ::ₘ rest)
    (result : Tables Dev × Next Dev) :
    (state.ran point result).points = result.2.threads.map Point.before + rest := by
  change _ + state.points.erase point = _
  rw [split, Multiset.erase_cons_head]

omit [DecidableEq Dev] [Fintype Dev] in
theorem before_takes (threads : Multiset (Thread Dev)) :
    ∀ other ∈ threads.map Point.before, other.takes = none := by
  intro other member
  obtain ⟨thread, _, rfl⟩ := Multiset.mem_map.mp member
  rfl

omit [DecidableEq Dev] [Fintype Dev] in
theorem before_leaves (threads : Multiset (Thread Dev)) :
    ∀ other ∈ threads.map Point.before, other.leaves = none := by
  intro other member
  obtain ⟨thread, _, rfl⟩ := Multiset.mem_map.mp member
  rfl

omit [Fintype Dev] in
theorem Shows.taken_ran {names : Names Nat Nat UInt32} (shows : Shows state names)
    (split : state.points = point ::ₘ rest) (takes : point.takes = none)
    (result : Tables Dev × Next Dev) :
    Marks Point.takes (state.ran point result).points names.taken := by
  have marks := shows.taken
  rw [split] at marks
  rw [Requests.points_ran split]
  exact (marks.drop takes).add (before_takes _)

omit [Fintype Dev] in
theorem Shows.leaving_ran {names : Names Nat Nat UInt32} (shows : Shows state names)
    (split : state.points = point ::ₘ rest) (leaves : point.leaves = none)
    (result : Tables Dev × Next Dev) :
    Marks Point.leaves (state.ran point result).points names.leaving := by
  have marks := shows.leaving
  rw [split] at marks
  rw [Requests.points_ran split]
  exact (marks.drop leaves).add (before_leaves _)

theorem Good.owners_ran (good : Good state) (invariant : Invariant state.world)
    (split : state.points = point ::ₘ rest) {result : Tables Dev × Next Dev}
    (kept : ∀ session < state.tables.registers.count,
      result.1.registers.owner session = state.tables.registers.owner session)
    {dev : Dev} {index count : Nat} {remaining : List Nat}
    (present : .fdClosed dev index service session remaining count ∈
      (state.ran point result).points) :
    result.1.registers.owner session = some dev := by
  rw [Requests.points_ran split] at present
  rcases Multiset.mem_add.mp present with new | old
  · cases before_leaves _ _ new
  · have before : Point.fdClosed dev index service session remaining count ∈ state.points := by
      rw [split]
      exact Multiset.mem_cons_of_mem old
    rw [kept session (invariant.fdClosed_listed before)]
    exact good.owners before

theorem Good.ran_same (good : Good state) (invariant : Invariant state.world)
    (split : state.points = point ::ₘ rest) (takes : point.takes = none)
    (leaves : point.leaves = none) {result : Tables Dev × Next Dev}
    (kept : result.1.registers = state.tables.registers) : Good (state.ran point result) := by
  obtain ⟨names, shows, distinct⟩ := good.names
  refine ⟨fun present => good.owners_ran invariant split (fun _ _ => by rw [kept]) present, names,
    ⟨?_, ?_, ?_, ?_, shows.out⟩, distinct⟩
  · intro service
    change _ = {session | session ∈ result.1.registers.list service}
    rw [kept]
    exact shows.items service
  · change _ = result.1.registers.ids
    rw [kept]
    exact shows.name
  · exact shows.taken_ran split takes result
  · exact shows.leaving_ran split leaves result

/-- The closer's session goes, whether the TEE has answered or the request never
reached it. -/
theorem Good.ran_unlinks (good : Good state) (invariant : Invariant state.world)
    (split : state.points = point ::ₘ rest) (inside : 0 < point.thread.locks.2.1 service)
    (takes : point.takes = none)
    (leaves : ∀ at_ other, point.leaves = some (at_, other) → at_ = service ∧ other = session)
    {result : Tables Dev × Next Dev}
    (unlinked : result.1.registers = state.tables.registers.unlink service session) :
    Good (state.ran point result) := by
  obtain ⟨names, shows, distinct⟩ := good.names
  have keeper (other : Nat) (leaving : names.leaving service = some other) : other = session := by
    obtain ⟨leaver, present, leaves_⟩ := (shows.leaving service other).mp leaving
    rw [split] at present
    rcases Multiset.mem_cons.mp present with rfl | elsewhere
    · exact (leaves service other leaves_).2
    · exact absurd leaves_ (invariant.alone_leaving split inside leaver elsewhere other)
  refine ⟨fun present => good.owners_ran invariant split (fun _ _ => by rw [unlinked]; rfl) present,
    names.remove service session, ⟨?_, ?_, ?_, ?_, shows.out⟩, distinct.remove keeper⟩
  · intro target
    change Function.update names.items service (names.items service \ {session}) target =
      {other | other ∈ result.1.registers.list target}
    rw [unlinked]
    by_cases same : target = service
    · subst same
      rw [Function.update_self, shows.items]
      ext other
      have once : (state.tables.registers.list target).Nodup :=
        invariant.counted.sessions.once target
      change (other ∈ state.tables.registers.list target ∧ other ≠ session) ↔
        other ∈ Function.update state.tables.registers.list target _ target
      rw [Function.update_self, List.Nodup.mem_erase_iff once, and_comm]
    · rw [Function.update_of_ne same, shows.items]
      change _ = {other | other ∈ Function.update state.tables.registers.list service _ target}
      rw [Function.update_of_ne same]
  · change _ = result.1.registers.ids
    rw [unlinked]
    exact shows.name
  · exact shows.taken_ran split takes result
  · have marks := shows.leaving
    rw [split] at marks
    rw [Requests.points_ran split]
    exact marks.clear (invariant.alone_leaving split inside)
      (fun at_ other leaves_ => (leaves at_ other leaves_).1) (before_leaves _)

/-- An answered open is over: `links` tells whether its session is on the list. -/
theorem Good.ran_opened (good : Good state) (invariant : Invariant state.world) {dev : Dev}
    {sessionId : UInt32} (split : state.points = .opened dev service sessionId ::ₘ rest)
    {result : Tables Dev × Next Dev}
    (ended : result.1.registers = state.tables.registers ∨
      result.1.registers = state.tables.registers.link dev service sessionId) :
    Good (state.ran (.opened dev service sessionId) result) := by
  obtain ⟨names, shows, distinct⟩ := good.names
  have inside : 0 < (Point.opened dev service sessionId).thread.locks.2.1 service :=
    Point.inside_of_takes rfl
  have present : Point.opened dev service sessionId ∈ state.points := by
    rw [split]
    exact Multiset.mem_cons_self _ _
  have taken : names.taken service = some sessionId :=
    (shows.taken service sessionId).mpr ⟨_, present, rfl⟩
  have idle := shows.idle invariant split inside rfl
  have takenAfter : Marks Point.takes (state.ran (.opened dev service sessionId) result).points
      (Function.update names.taken service none) := by
    have marks := shows.taken
    rw [split] at marks
    rw [Requests.points_ran split]
    refine marks.clear (invariant.alone_taken split inside) ?_ (before_takes _)
    intro at_ value marked
    cases marked
    rfl
  have leavingAfter : Marks Point.leaves (state.ran (.opened dev service sessionId) result).points
      names.leaving :=
    shows.leaving_ran split rfl result
  rcases ended with same | linked
  · refine ⟨fun member => good.owners_ran invariant split (fun _ _ => by rw [same]) member,
      names.forget service, ⟨?_, ?_, takenAfter, leavingAfter, shows.out⟩, distinct.forget⟩
    · intro target
      change names.items target = {other | other ∈ result.1.registers.list target}
      rw [same]
      exact shows.items target
    · change names.name = result.1.registers.ids
      rw [same]
      exact shows.name
  · have sessions := invariant.counted.sessions
    have new (target : Nat) : state.tables.registers.count ∉ names.items target := by
      rw [shows.items]
      intro member
      exact Nat.lt_irrefl _ (sessions.lt_sessionCount (sessions.usage_pos_of_mem member))
    refine ⟨fun member => good.owners_ran invariant split ?_ member,
      names.enter service state.tables.registers.count sessionId,
      ⟨?_, ?_, takenAfter, leavingAfter, shows.out⟩, distinct.enter taken idle new⟩
    · intro session below
      rw [linked]
      exact Function.update_of_ne (Nat.ne_of_lt below) _ _
    · intro target
      change Function.update names.items service (insert _ (names.items service)) target =
        {other | other ∈ result.1.registers.list target}
      rw [linked]
      change _ = {other | other ∈ Function.update state.tables.registers.list service _ target}
      by_cases same : target = service
      · subst same
        rw [Function.update_self, Function.update_self, shows.items]
        ext other
        simp [or_comm]
      · rw [Function.update_of_ne same, Function.update_of_ne same, shows.items]
    · change Function.update names.name state.tables.registers.count sessionId =
        result.1.registers.ids
      rw [linked, shows.name]
      rfl

omit [DecidableEq Dev] [Fintype Dev] in
theorem Good.joins (good : Good state) {tables : Tables Dev}
    (kept : tables.registers = state.tables.registers) (thread : Thread Dev) :
    Good { state with tables := tables, points := .before thread ::ₘ state.points } := by
  obtain ⟨names, shows, distinct⟩ := good.names
  refine ⟨?_, names, ⟨?_, ?_, shows.taken.cons rfl, shows.leaving.cons rfl, shows.out⟩, distinct⟩
  · intro dev index service session remaining count present
    change tables.registers.owner session = some dev
    rw [kept]
    rcases Multiset.mem_cons.mp present with impossible | old
    · cases impossible
    · exact good.owners old
  · intro service
    change _ = {session | session ∈ tables.registers.list service}
    rw [kept]
    exact shows.items service
  · change _ = tables.registers.ids
    rw [kept]
    exact shows.name

omit [DecidableEq Dev] [Fintype Dev] in
theorem Good.owners_answered (good : Good state) (split : state.points = point ::ₘ rest)
    {after : Point Dev}
    (own : ∀ dev index service session remaining count,
      after = .fdClosed dev index service session remaining count →
        state.tables.registers.owner session = some dev)
    {dev : Dev} {index count : Nat} {remaining : List Nat}
    (present : .fdClosed dev index service session remaining count ∈ after ::ₘ rest) :
    state.tables.registers.owner session = some dev := by
  rcases Multiset.mem_cons.mp present with same | old
  · exact own _ _ _ _ _ _ same.symm
  · have before : Point.fdClosed dev index service session remaining count ∈ state.points := by
      rw [split]
      exact Multiset.mem_cons_of_mem old
    exact good.owners before

theorem Good.openAnswered (good : Good state) (invariant : Invariant state.world) {dev : Dev}
    (present : .before (.openLocked dev service) ∈ state.points) {answer : OpenAnswer}
    (fresh : FreshIds state (.openAnswer dev service answer)) :
    Good (state.openAnswered dev service answer) := by
  obtain ⟨rest, split⟩ := Multiset.exists_cons_of_mem present
  obtain ⟨names, shows, distinct⟩ := good.names
  have erased : state.points.erase (.before (.openLocked dev service)) = rest := by
    rw [split, Multiset.erase_cons_head]
  have taken := shows.taken
  have leaving := shows.leaving
  rw [split] at taken leaving
  cases answer with
  | success sessionId =>
      have inside : 0 < (Point.before (.openLocked dev service)).thread.locks.2.1 service := by
        simp [Point.thread, insideOperation]
      change Good ⟨state.tables, .opened dev service sessionId ::ₘ _, insert sessionId state.live⟩
      rw [erased]
      refine ⟨good.owners_answered split ?_, names.take service sessionId,
        ⟨shows.items, shows.name, ?_, (leaving.drop rfl).cons rfl, ?_⟩, distinct.take ?_⟩
      · intro _ _ _ _ _ _ impossible
        cases impossible
      · exact taken.set (invariant.alone_taken split inside) rfl rfl
      · change insert sessionId names.out = _
        rw [shows.out, Finset.coe_insert]
      · rw [shows.out]
        exact fresh
  | pending sessionId =>
      change Good ⟨state.tables, .openPended dev service sessionId ::ₘ _, state.live⟩
      rw [erased]
      refine ⟨good.owners_answered split ?_, names, ⟨shows.items, shows.name,
        (taken.drop rfl).cons rfl, (leaving.drop rfl).cons rfl, shows.out⟩, distinct⟩
      intro _ _ _ _ _ _ impossible
      cases impossible

omit [Fintype Dev] in
theorem Thread.closes_cases {owner : Nat → Option Dev} {thread : Thread Dev}
    {closing : Point Dev × Nat} (closes : thread.closes owner = some closing) :
    closing.1.takes = none ∧ (∃ service, closing.1.leaves = some (service, closing.2)) ∧
      ∀ dev index service session remaining count,
        closing.1 = .fdClosed dev index service session remaining count →
          owner session = some dev := by
  cases thread with
  | closeCalling dev service session =>
      cases closes
      refine ⟨rfl, ⟨service, rfl⟩, ?_⟩
      intro _ _ _ _ _ _ impossible
      cases impossible
  | fdClosing dev index service remaining count =>
      cases remaining with
      | nil => cases closes
      | cons session rest =>
          rw [Thread.closes] at closes
          split at closes
          · next own =>
              cases closes
              refine ⟨rfl, ⟨service, rfl⟩, ?_⟩
              intro _ _ _ _ _ _ same
              cases same
              exact own
          · cases closes
  | _ => cases closes

theorem Invariant.closes_listed (invariant : Invariant state.world) {thread : Thread Dev}
    (present : .before thread ∈ state.points) {closing : Point Dev × Nat}
    (closes : thread.closes state.tables.book.owner = some closing)
    (leaves : closing.1.leaves = some (service, closing.2)) :
    closing.2 ∈ state.tables.registers.list service := by
  have facts := (invariant.facts _ (Multiset.mem_map_of_mem Point.thread present)).facts
  change thread.Facts state.tables.book at facts
  cases thread with
  | closeCalling dev target session =>
      cases closes
      cases leaves
      exact facts.1
  | fdClosing dev index target remaining count =>
      cases remaining with
      | nil => cases closes
      | cons session rest =>
          rw [Thread.closes] at closes
          split at closes
          · cases closes
            cases leaves
            exact facts.2.members session List.mem_cons_self
          · cases closes
  | _ => cases closes

theorem Good.closeAnswered (good : Good state) (invariant : Invariant state.world)
    {thread : Thread Dev} (present : .before thread ∈ state.points) {closing : Point Dev × Nat}
    (closes : thread.closes state.tables.book.owner = some closing) :
    Good (state.closeAnswered thread closing) := by
  obtain ⟨rest, split⟩ := Multiset.exists_cons_of_mem present
  obtain ⟨names, shows, distinct⟩ := good.names
  obtain ⟨takes, ⟨service, leaves⟩, own⟩ := Thread.closes_cases closes
  have erased : state.points.erase (.before thread) = rest := by
    rw [split, Multiset.erase_cons_head]
  have taken := shows.taken
  have leaving := shows.leaving
  rw [split] at taken leaving
  have inside : 0 < (Point.before thread).thread.locks.2.1 service := by
    change 0 < thread.locks.2.1 service
    rw [← Thread.closes_thread closes]
    exact Point.inside_of_leaves leaves
  have listed : closing.2 ∈ names.items service := by
    rw [shows.items]
    exact invariant.closes_listed present closes leaves
  have idle := shows.idle invariant split inside rfl
  change Good ⟨state.tables, closing.1 ::ₘ _, _⟩
  rw [erased]
  refine ⟨good.owners_answered split own, names.giveBack service closing.2,
    ⟨shows.items, shows.name, (taken.drop rfl).cons takes, ?_, ?_⟩, distinct.giveBack listed idle⟩
  · exact leaving.set (invariant.alone_leaving split inside) rfl leaves
  · change names.out \ {names.name closing.2} = _
    rw [shows.out, shows.name, Finset.coe_erase]
    rfl

theorem Good.run (good : Good state) (invariant : Invariant state.world) {thread : Thread Dev}
    {choice : Choice} (present : .before thread ∈ state.points)
    (unanswered : thread.unanswered choice = true) {result : Tables Dev × Next Dev}
    (ran : stepThread state.tables choice thread = some result) :
    Good (state.ran (.before thread) result) := by
  obtain ⟨rest, split⟩ := Multiset.exists_cons_of_mem present
  have fresh := invariant.counted.sessions.fresh state.tables.serviceCount (Nat.le_refl _)
  cases stepThread_effect fresh ran with
  | same kept => exact good.ran_same invariant split rfl rfl kept
  | links dev service here works linked =>
      subst here
      rw [Thread.unanswered, works] at unanswered
      cases unanswered
  | unlinks point service session closes leaves unlinked =>
      have inside : 0 < (Point.before thread).thread.locks.2.1 service := by
        change 0 < thread.locks.2.1 service
        rw [← Thread.closes_thread closes]
        exact Point.inside_of_leaves leaves
      refine good.ran_unlinks invariant split inside rfl ?_ unlinked
      intro at_ other impossible
      cases impossible

theorem Good.openEnd (good : Good state) (invariant : Invariant state.world) {dev : Dev}
    {sessionId : UInt32} {copied : Bool} (present : .opened dev service sessionId ∈ state.points)
    {result : Tables Dev × Next Dev}
    (ran : openLockedSection state.tables ⟨copied, sessionId⟩ dev service = some result) :
    Good (state.ran (.opened dev service sessionId) result) := by
  obtain ⟨rest, split⟩ := Multiset.exists_cons_of_mem present
  apply good.ran_opened invariant split
  rw [openLockedSection] at ran
  split at ran
  · cases ran
    exact Or.inr (by simp)
  · cases ran
    exact Or.inl (by simp)

theorem Good.unlink (good : Good state) (invariant : Invariant state.world)
    (present : point ∈ state.points) (leaving : point.leaves.isSome = true)
    {result : Tables Dev × Next Dev}
    (ran : stepThread state.tables ⟨true, 0⟩ point.thread = some result) :
    Good (state.ran point result) := by
  obtain ⟨rest, split⟩ := Multiset.exists_cons_of_mem present
  obtain ⟨⟨service, session⟩, leaves⟩ := Option.isSome_iff_exists.mp leaving
  have inside := Point.inside_of_leaves leaves
  have only (at_ other : Nat) (same : point.leaves = some (at_, other)) :
      at_ = service ∧ other = session := by
    rw [leaves] at same
    cases same
    exact ⟨rfl, rfl⟩
  cases point with
  | closed dev target other =>
      cases leaves
      cases ran
      exact good.ran_unlinks invariant split inside rfl only (by simp)
  | fdClosed dev index target other remaining count =>
      cases leaves
      have own : (state.tables.sessions session).owner = some dev := good.owners present
      rw [Point.thread, stepThread, fdClosingSection, if_pos own] at ran
      cases ran
      exact good.ran_unlinks invariant split inside rfl only (by simp)
  | _ => cases leaves

theorem Good.step {after : Requests Dev} {move : Move Dev} (good : Good state)
    (invariant : Invariant state.world) (fresh : FreshIds state move)
    (ran : state.exec move = some after) : Good after := by
  cases Requests.exec_cases ran with
  | @start call => exact good.joins rfl call.thread
  | @closeFd dev =>
      exact good.joins (state.tables.registers_setPhase dev (.closing 0)) (.fdScan dev 0)
  | run present unanswered _ stepped => exact good.run invariant present unanswered stepped
  | openAnswer present => exact good.openAnswered invariant present fresh
  | openEnd present stepped => exact good.openEnd invariant present stepped
  | closeAnswer present closes => exact good.closeAnswered invariant present closes
  | unlink present leaving stepped => exact good.unlink invariant present leaving stepped

/-! ### Whole runs -/

omit [DecidableEq Dev] [Fintype Dev] in
theorem Good.initial : Good (⟨Tables.initial, 0, ∅⟩ : Requests Dev) := by
  have unmarked {Value : Type} (mark : Point Dev → Option (Nat × Value)) :
      Marks mark 0 fun _ => none := by
    intro place value
    simp
  refine ⟨?_, ⟨fun _ => ∅, fun _ => 0, fun _ => none, fun _ => none, ∅⟩,
    ⟨?_, rfl, unmarked _, unmarked _, ?_⟩, ⟨?_, ?_, ?_⟩⟩
  · intro _ _ _ _ _ _ impossible
    cases Multiset.notMem_zero _ impossible
  · intro service
    refine (Set.eq_empty_iff_forall_notMem.mpr ?_).symm
    intro session member
    cases member
  · exact Finset.coe_empty.symm
  · intro first second name holds
    cases holds with
    | keeper taken => cases taken
    | item member => cases member
  · intro holder name holds
    cases holds with
    | keeper taken => cases taken
    | item member => cases member
  · intro place first second member
    cases member

theorem good_of_reachable (reached : (requestMachine.restrict FreshIds).Reachable state) :
    Good state := by
  induction reached with
  | start initial =>
      subst initial
      exact .initial
  | next earlier taken ih =>
      have invariant := invariant_of_reachable
        (careful_of_ioctlMachine (Requests.world_reachable earlier))
      exact ih.step invariant taken.1 taken.2

/-- As long as the TEE answers no open with an id that was opened through the driver
and not closed since, no two sessions on one list ever have the same id. -/
theorem session_ids_unique (reached : (requestMachine.restrict FreshIds).Reachable state)
    (service : Nat) :
    ((state.tables.services service).sessionList.map fun session =>
      (state.tables.sessions session).sessionId).Nodup := by
  have good := good_of_reachable reached
  have invariant := invariant_of_reachable
    (careful_of_ioctlMachine (Requests.world_reachable reached))
  obtain ⟨names, shows, distinct⟩ := good.names
  refine List.Nodup.map_on ?_ (invariant.counted.sessions.once service)
  intro first firstMember second secondMember same
  have member {session : Nat} (listed : session ∈ (state.tables.services service).sessionList) :
      session ∈ names.items service := by
    rw [shows.items]
    exact listed
  apply distinct.here (member firstMember) (member secondMember)
  rw [shows.name]
  exact same

end Good

instance {Dev : Type} (state : Requests Dev) (move : Move Dev) :
    Decidable (FreshIds state move) :=
  match move with
  | .openAnswer _ _ (.success sessionId) => inferInstanceAs (Decidable (sessionId ∉ state.live))
  | .openAnswer _ _ (.pending _) | .start _ | .closeFd _ | .run .. | .openEnd .. | .closeAnswer _
  | .unlink _ => isTrue trivial

/-- Two sessions of a service are opened, the first one is closed up to the answer of
the TEE. -/
def twoOpens (uuid : Uuid) (first second : UInt32) : List (Move Unit) :=
  let works : Choice := ⟨true, 0⟩
  [.start (.openSession () uuid), .run (.openStart () uuid) works,
    .run (.openFindAll () uuid) works, .run (.openAddDev () 0) works,
    .run (.openReferenced () 0) works, .openAnswer () 0 (.success first),
    .openEnd () 0 first true,
    .start (.openSession () uuid), .run (.openStart () uuid) works,
    .run (.openReferenced () 0) works, .openAnswer () 0 (.success second),
    .openEnd () 0 second true,
    .start (.closeSession () uuid first), .run (.closeStart () uuid first) works,
    .run (.closeHasService () 0 first) works, .run (.closeLocked () 0 first) works,
    .closeAnswer (.closeCalling () 0 0)]

theorem session_ids_unique_two_opens :
    ∃ state : Requests Unit, (state.tables.services 0).sessionList = [0, 1] ∧
      ((state.tables.services 0).sessionList.map fun session =>
        (state.tables.sessions session).sessionId).Nodup := by
  have ran : ((Machine.replay (Machine.guarded FreshIds Requests.exec) ⟨Tables.initial, 0, ∅⟩
      (twoOpens 7#128 5 6)).map fun state =>
        decide ((state.tables.services 0).sessionList = [0, 1])) = some true := by
    decide +kernel
  obtain ⟨state, reached, listed⟩ := Machine.Reachable.exists_of_replay
    (@Machine.guarded_sound _ _ requestMachine FreshIds _ _ fun _ _ _ stepped => stepped)
    (.start rfl) ran
  exact ⟨state, of_decide_eq_true listed, session_ids_unique reached 0⟩

end TzDriver.Session
