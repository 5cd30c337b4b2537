import XdpSteering.Proofs.QueueTable.Slots

/-!
# Registrations in a row

Registrations into an empty table are served in their order. The first different queues find a
place, as many as the capacity says, and keep it; all others are turned down each time. A queue with
a place ends with the endpoint that was named for it last.
-/

namespace XdpSteering.QueueTable

variable {capacity : UInt32} {session : Session} {table : QueueTable} {queue other : QueueIndex}
  {endpoint value : Endpoint} {registration : QueueIndex × Endpoint}
  {done rest registrations : List (QueueIndex × Endpoint)}

/-- The queues that find a place: the first different ones that the capacity has room for. -/
def admitted (capacity : UInt32) (registrations : List (QueueIndex × Endpoint)) :
    List QueueIndex :=
  (registrations.map Prod.fst).eraseDups.take capacity.toNat

/-- The last registration of a queue names this endpoint. -/
def NamedLast (registrations : List (QueueIndex × Endpoint)) (queue : QueueIndex)
    (endpoint : Endpoint) : Prop :=
  ∃ before after, registrations = before ++ (queue, endpoint) :: after ∧
    queue ∉ after.map Prod.fst

/-- The answer to a registration that is one of many: whether its queue finds a place among them
decides. -/
inductive Served (capacity : UInt32) (registrations : List (QueueIndex × Endpoint)) :
    QueueIndex × Endpoint → Answer → Prop where
  | accepted {queue : QueueIndex} (endpoint : Endpoint) (previous : Option Endpoint)
      (placed : queue ∈ admitted capacity registrations) :
      Served capacity registrations (queue, endpoint) (.registered previous)
  | refused {queue : QueueIndex} (endpoint : Endpoint)
      (unplaced : queue ∉ admitted capacity registrations) :
      Served capacity registrations (queue, endpoint)
        (.rejected (.capacityExceeded queue capacity))

/-! ## Different queues -/

theorem mem_of_mem_admitted (h : queue ∈ admitted capacity registrations) :
    queue ∈ registrations.map Prod.fst :=
  List.mem_eraseDups.mp (List.mem_of_mem_take h)

/-- What a queue gets is settled when it first comes. -/
theorem mem_admitted_append (rest : List (QueueIndex × Endpoint))
    (h : queue ∈ done.map Prod.fst) :
    queue ∈ admitted capacity (done ++ rest) ↔ queue ∈ admitted capacity done := by
  have hnew : queue ∉ ((rest.map Prod.fst).removeAll (done.map Prod.fst)).eraseDups := by
    rw [List.mem_eraseDups, List.removeAll, List.mem_filter]
    simp [List.mem_map.mp h]
  have hnone (count : Nat) :
      queue ∉ (((rest.map Prod.fst).removeAll (done.map Prod.fst)).eraseDups).take count :=
    fun hmem => hnew (List.mem_of_mem_take hmem)
  rw [admitted, List.map_append, List.eraseDups_append, List.take_append, List.mem_append, admitted]
  exact or_iff_left (hnone _)

/-- So is what it is answered. -/
theorem Served.append {answer : Answer} (h : Served capacity done registration answer)
    (rest : List (QueueIndex × Endpoint)) (hmem : registration ∈ done) :
    Served capacity (done ++ rest) registration answer := by
  have hsettled : registration.1 ∈ admitted capacity (done ++ rest) ↔ _ :=
    mem_admitted_append rest (List.mem_map_of_mem hmem)
  cases h with
  | accepted endpoint previous placed => exact .accepted endpoint previous (hsettled.mpr placed)
  | refused endpoint unplaced => exact .refused endpoint (hsettled.not.mpr unplaced)

theorem admitted_concat_of_mem (h : registration.1 ∈ done.map Prod.fst) :
    admitted capacity (done ++ [registration]) = admitted capacity done := by
  have hnone : [registration.1].removeAll (done.map Prod.fst) = [] := by
    simpa [List.removeAll] using h
  rw [admitted, List.map_append, List.eraseDups_append, List.map_singleton, hnone,
    List.eraseDups_nil, List.append_nil, admitted]

theorem admitted_concat_of_full (h : (admitted capacity done).length = capacity.toNat)
    (registration : QueueIndex × Endpoint) :
    admitted capacity (done ++ [registration]) = admitted capacity done := by
  have hlong : capacity.toNat ≤ (done.map Prod.fst).eraseDups.length := by
    rw [← h]
    exact List.length_take_le' _ _
  rw [admitted, List.map_append, List.eraseDups_append, List.take_append_of_le_length hlong,
    admitted]

theorem admitted_concat_of_room (hnew : registration.1 ∉ admitted capacity done)
    (h : (admitted capacity done).length < capacity.toNat) :
    admitted capacity (done ++ [registration]) = admitted capacity done ++ [registration.1] := by
  have hshort : (done.map Prod.fst).eraseDups.length < capacity.toNat := by
    rw [admitted, List.length_take] at h
    omega
  have hall : admitted capacity done = (done.map Prod.fst).eraseDups :=
    List.take_of_length_le (Nat.le_of_lt hshort)
  have hfresh : registration.1 ∉ done.map Prod.fst := by
    rwa [hall, List.mem_eraseDups] at hnew
  have hone : [registration.1].removeAll (done.map Prod.fst) = [registration.1] := by
    simpa [List.removeAll] using hfresh
  rw [hall, admitted, List.map_append, List.eraseDups_append, List.map_singleton, hone,
    List.eraseDups_cons, List.filter_nil, List.eraseDups_nil]
  exact List.take_of_length_le (by simpa using hshort)

/-! ## The last registration of a queue -/

theorem namedLast_concat_self :
    NamedLast (done ++ [(queue, endpoint)]) queue value ↔ value = endpoint := by
  constructor
  · rintro ⟨before, after, hsplit, hlast⟩
    rcases List.eq_nil_or_concat after with rfl | ⟨front, last, rfl⟩
    · have hend := (List.append_inj' hsplit rfl).2
      exact ((Prod.mk.inj (List.singleton_inj.mp hend)).2).symm
    · rw [List.concat_eq_append, ← List.cons_append, ← List.append_assoc] at hsplit
      obtain rfl := List.singleton_inj.mp (List.append_inj' hsplit rfl).2
      simp at hlast
  · rintro rfl
    exact ⟨done, [], rfl, by simp⟩

theorem namedLast_concat_of_ne (h : queue ≠ registration.1) :
    NamedLast (done ++ [registration]) queue endpoint ↔ NamedLast done queue endpoint := by
  constructor
  · rintro ⟨before, after, hsplit, hlast⟩
    rcases List.eq_nil_or_concat after with rfl | ⟨front, last, rfl⟩
    · have hend := List.singleton_inj.mp (List.append_inj' hsplit rfl).2
      exact absurd (congrArg Prod.fst hend).symm h
    · rw [List.concat_eq_append, ← List.cons_append, ← List.append_assoc] at hsplit
      refine ⟨before, front, (List.append_inj' hsplit rfl).1, fun hmem => hlast ?_⟩
      simp [List.mem_map.mp hmem]
  · rintro ⟨before, after, rfl, hlast⟩
    refine ⟨before, after ++ [registration], by simp, ?_⟩
    rw [List.map_append, List.mem_append, not_or]
    exact ⟨hlast, by simpa using h⟩

theorem exists_namedLast (h : queue ∈ registrations.map Prod.fst) :
    ∃ endpoint, NamedLast registrations queue endpoint := by
  induction registrations using List.reverseRecOn with
  | nil => simp at h
  | append_singleton done registration ih =>
    by_cases heq : queue = registration.1
    · subst heq
      exact ⟨registration.2, namedLast_concat_self.mpr rfl⟩
    · rw [List.map_append, List.mem_append] at h
      obtain ⟨endpoint, hlast⟩ := ih (h.resolve_right (by simpa using heq))
      exact ⟨endpoint, (namedLast_concat_of_ne heq).mpr hlast⟩

/-! ## One registration after others -/

structure Filled (capacity : UInt32) (done : List (QueueIndex × Endpoint)) (table : QueueTable) :
    Prop extends Bounded capacity table where
  get?_iff (queue : QueueIndex) (endpoint : Endpoint) :
    table.get? queue = some endpoint ↔
      queue ∈ admitted capacity done ∧ NamedLast done queue endpoint
  size_eq : table.size = (admitted capacity done).length

namespace Filled

theorem empty (capacity : UInt32) : Filled capacity [] (QueueTable.empty capacity) where
  toBounded := Bounded.empty capacity
  get?_iff queue endpoint := by simp [QueueTable.get?, QueueTable.empty, KeyedList.find?, admitted]
  size_eq := by simp [QueueTable.size, QueueTable.empty, admitted]

theorem isSome_get?_iff (h : Filled capacity done table) :
    (table.get? queue).isSome ↔ queue ∈ admitted capacity done := by
  rw [Option.isSome_iff_exists]
  constructor
  · rintro ⟨endpoint, hget⟩
    exact ((h.get?_iff queue endpoint).mp hget).1
  · intro hmem
    obtain ⟨endpoint, hlast⟩ := exists_namedLast (mem_of_mem_admitted hmem)
    exact ⟨endpoint, (h.get?_iff queue endpoint).mpr ⟨hmem, hlast⟩⟩

theorem get?_eq_none_iff (h : Filled capacity done table) :
    table.get? queue = none ↔ queue ∉ admitted capacity done := by
  rw [← h.isSome_get?_iff, Option.not_isSome_iff_eq_none]

/-- A table changes as it should if the queue has a place now, and the others have what they had. -/
theorem of_register {next : QueueTable} {previous : Option Endpoint}
    (h : Filled capacity done table)
    (hregister : table.register queue endpoint = .ok (previous, next))
    (hadmitted : ∀ other,
      other ∈ admitted capacity (done ++ [(queue, endpoint)]) ↔
        other = queue ∨ other ∈ admitted capacity done)
    (hsize : next.size = (admitted capacity (done ++ [(queue, endpoint)])).length) :
    Filled capacity (done ++ [(queue, endpoint)]) next where
  toBounded := h.toBounded.register hregister
  get?_iff other value := by
    rw [get?_of_register hregister, hadmitted]
    split
    · next heq =>
      subst heq
      simp [namedLast_concat_self, eq_comm]
    · next hne =>
      rw [h.get?_iff, namedLast_concat_of_ne hne]
      simp [hne]
  size_eq := hsize

theorem register (h : Filled capacity done table)
    {next : QueueTable} {previous : Option Endpoint}
    (hregister : table.register queue endpoint = .ok (previous, next)) :
    Filled capacity (done ++ [(queue, endpoint)]) next ∧
      queue ∈ admitted capacity (done ++ [(queue, endpoint)]) := by
  have hsize := size_of_register hregister h.ascending
  cases hget : table.get? queue with
  | some found =>
    -- The queue has its place already.
    have hplace : queue ∈ admitted capacity done := h.isSome_get?_iff.mp (by simp [hget])
    have hsame : admitted capacity (done ++ [(queue, endpoint)]) = admitted capacity done :=
      admitted_concat_of_mem (mem_of_mem_admitted hplace)
    rw [hsame]
    refine ⟨h.of_register hregister (fun other => ?_) ?_, hplace⟩
    · rw [hsame]
      exact (or_iff_right_of_imp fun heq => heq ▸ hplace).symm
    · rw [hsize, hsame, hget, ← h.size_eq]
      rfl
  | none =>
    obtain ⟨hroom, -, -⟩ := register_eq_ok_iff.mp hregister
    have hlt := hroom hget
    rw [h.capacity_eq, h.size_eq] at hlt
    have hmore : admitted capacity (done ++ [(queue, endpoint)])
        = admitted capacity done ++ [queue] :=
      admitted_concat_of_room (h.get?_eq_none_iff.mp hget) hlt
    rw [hmore]
    refine ⟨h.of_register hregister (fun other => ?_) ?_, by simp⟩
    · rw [hmore, List.mem_append, List.mem_singleton, or_comm]
    · rw [hsize, hmore, hget, List.length_append, ← h.size_eq]
      rfl

theorem refuse (h : Filled capacity done table) {error : TableError}
    (hregister : table.register queue endpoint = .error error) :
    Filled capacity (done ++ [(queue, endpoint)]) table ∧
      queue ∉ admitted capacity (done ++ [(queue, endpoint)]) ∧
      error = .capacityExceeded queue capacity := by
  obtain ⟨habsent, hfull, herror⟩ := h.register_eq_error_iff_full.mp hregister
  have hplace : queue ∉ admitted capacity done := h.get?_eq_none_iff.mp habsent
  have hsame : admitted capacity (done ++ [(queue, endpoint)]) = admitted capacity done :=
    admitted_concat_of_full (h.size_eq ▸ hfull) _
  refine ⟨⟨h.toBounded, fun other value => ?_, hsame ▸ h.size_eq⟩, hsame ▸ hplace, herror⟩
  rw [h.get?_iff, hsame]
  refine and_congr_right fun hother => ?_
  have hne : other ≠ queue := fun heq => hplace (heq ▸ hother)
  have hlast : NamedLast (done ++ [(queue, endpoint)]) other value ↔ NamedLast done other value :=
    namedLast_concat_of_ne hne
  exact hlast.symm

/-- The step lemma: one more registration is served. -/
theorem step (h : Filled capacity done session.table) (registration : QueueIndex × Endpoint) :
    Filled capacity (done ++ [registration])
        (session.step (.ofRegistration registration)).2.table ∧
      Served capacity (done ++ [registration]) registration
        (session.step (.ofRegistration registration)).1 := by
  obtain ⟨queue, endpoint⟩ := registration
  rw [Request.ofRegistration]
  cases hregister : session.table.register queue endpoint with
  | ok result =>
    obtain ⟨previous, next⟩ := result
    obtain ⟨hfilled, hplace⟩ := h.register hregister
    rw [step_of_register_ok hregister]
    exact ⟨hfilled, .accepted endpoint previous hplace⟩
  | error error =>
    obtain ⟨hfilled, hplace, rfl⟩ := h.refuse hregister
    rw [step_of_register_error hregister]
    exact ⟨hfilled, .refused endpoint hplace⟩

/-- The run lemma: registrations that come after others are served in their order. -/
theorem run (h : Filled capacity done session.table) (rest : List (QueueIndex × Endpoint)) :
    Filled capacity (done ++ rest) (session.run (rest.map .ofRegistration)).2.table ∧
      List.Forall₂ (Served capacity (done ++ rest)) rest
        (session.run (rest.map .ofRegistration)).1 := by
  induction rest generalizing done session with
  | nil =>
    rw [List.append_nil]
    exact ⟨h, .nil⟩
  | cons registration rest ih =>
    obtain ⟨hnext, hserved⟩ := h.step registration
    obtain ⟨hlast, hothers⟩ := ih hnext
    have hfirst := hserved.append rest (List.mem_append_right done List.mem_cons_self)
    rw [List.append_assoc, List.singleton_append] at hlast hothers hfirst
    exact ⟨hlast, .cons hfirst hothers⟩

end Filled

/-- Registrations into an empty table: exactly those of the first different queues, as many as the
capacity says, are accepted, and the table then holds these queues, each with the endpoint that was
named for it last. -/
theorem registrations_are_served_in_order (capacity : UInt32)
    (registrations : List (QueueIndex × Endpoint)) :
    let outcome := (Session.start capacity).run (registrations.map .ofRegistration)
    List.Forall₂ (Served capacity registrations) registrations outcome.1 ∧
      (∀ queue, (outcome.2.table.get? queue).isSome ↔ queue ∈ admitted capacity registrations) ∧
      (∀ queue endpoint, outcome.2.table.get? queue = some endpoint →
        NamedLast registrations queue endpoint) ∧
      outcome.2.table.size = (admitted capacity registrations).length := by
  have hstart : Filled capacity [] (Session.start capacity).table := Filled.empty capacity
  obtain ⟨hfilled, hserved⟩ := hstart.run registrations
  rw [List.nil_append] at hfilled hserved
  exact ⟨hserved, fun queue => hfilled.isSome_get?_iff,
    fun queue endpoint hget => ((hfilled.get?_iff queue endpoint).mp hget).2, hfilled.size_eq⟩

/-- A queue without a place is turned down each time; one with a place may get another endpoint
when the table is full. -/
example :
    ((Session.start 2).run (List.map .ofRegistration
        [(5, 10), (7, 11), (9, 12), (5, 13), (9, 14)])).1
      = [.registered none, .registered none, .rejected (.capacityExceeded 9 2),
        .registered (some 10), .rejected (.capacityExceeded 9 2)] := by
  decide

end XdpSteering.QueueTable
