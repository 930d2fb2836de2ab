import RowBinding.Proofs.Binding.Cache.Interleaving

/-!
# What requests count

The counters of a cache can be read off the requests to it. A request that has
come to a result without computing is a hit, every other request that looked at
its slot is a miss, and of the misses those are compilations that filled their
slot. This holds between any two steps, however the requests are interleaved.
-/

namespace RowBinding
namespace BindingCache

variable {ε : Type}

theorem counters_fetchSlot (cache : BindingCache ε) (key : Fingerprint) :
    (cache.fetchSlot key).2.hits = cache.hits ∧
      (cache.fetchSlot key).2.misses = cache.misses ∧
      (cache.fetchSlot key).2.compilations = cache.compilations := by
  unfold fetchSlot
  split <;> exact ⟨rfl, rfl, rfl⟩

theorem counters_mapSlot (cache : BindingCache ε) (key : Fingerprint) (slot : Nat) :
    (cache.mapSlot key slot).hits = cache.hits ∧
      (cache.mapSlot key slot).misses = cache.misses ∧
      (cache.mapSlot key slot).compilations = cache.compilations := by
  unfold mapSlot
  split <;> exact ⟨rfl, rfl, rfl⟩

namespace Request

/-- The request found an entry in its slot. -/
def isHit (request : Request ε) : Bool :=
  request.phase.settled?.isSome && !request.missed

/-- The computation of the request failed. -/
def failed (request : Request ε) : Bool :=
  match request.phase.settled? with
  | some (.error _) => true
  | _ => false

/-- The request has filled its slot with what it computed. -/
def compiled (request : Request ε) : Bool :=
  request.missed &&
    match request.phase with
    | .mapping _ _ | .releasing _ (.ok _) | .returned (.ok _) => true
    | _ => false

/-- The request is computing an entry. -/
def isComputing (request : Request ε) : Bool :=
  match request.phase with
  | .computing _ => true
  | _ => false

/-- A request is marked as a miss from its computation on, and not before. -/
def Marked (request : Request ε) : Prop :=
  match request.phase with
  | .arriving | .waiting _ | .checking _ => request.missed = false
  | .computing _ | .dropping _ _ | .filling _ _ | .mapping _ _
  | .releasing _ (.error _) | .returned (.error _) => request.missed = true
  | .releasing _ (.ok _) | .returned (.ok _) => True

/-- A returned request is a hit or a miss. -/
theorem isHit_add_missed {request : Request ε} (returned : request.phase.result?.isSome) :
    request.isHit.toNat + request.missed.toNat = 1 := by
  obtain ⟨key, phase, missed⟩ := request
  cases phase with
  | returned result => cases missed <;> rfl
  | _ => cases returned

/-- A returned miss has either filled its slot or failed. -/
theorem missed_eq_compiled_add_failed
    {request : Request ε}
    (marked : request.Marked)
    (returned : request.phase.result?.isSome) :
    request.missed.toNat = request.compiled.toNat + request.failed.toNat := by
  obtain ⟨key, phase, missed⟩ := request
  cases phase with
  | returned result =>
      cases result with
      | ok entry => cases missed <;> rfl
      | error error =>
          obtain rfl : missed = true := marked
          rfl
  | _ => cases returned

/-- A counter rises by one when a property of the moving request comes to hold. -/
def RisesWith (before after : Nat) (was is : Bool) : Prop :=
  after + was.toNat = before + is.toNat ∧ before ≤ after

namespace Step

variable
  {isFree : Nat → Prop}
  {cache moved : BindingCache ε}
  {earlier later : Request ε}

theorem marked
    (moves : Request.Step isFree cache earlier moved later)
    (marked : earlier.Marked) :
    later.Marked := by
  cases moves with
  | hit key missed slot entry filled => trivial
  | miss key missed slot empty => rfl
  | map key missed slot entry => trivial
  | release key missed slot result => cases result <;> exact marked
  | _ => exact marked

theorem counts
    (moves : Request.Step isFree cache earlier moved later)
    (marked : earlier.Marked) :
    RisesWith cache.hits moved.hits earlier.isHit later.isHit ∧
      RisesWith cache.misses moved.misses earlier.missed later.missed ∧
      RisesWith cache.compilations moved.compilations earlier.compiled later.compiled := by
  have unchanged (was : Bool) (counter : Nat) : RisesWith counter counter was was :=
    ⟨rfl, Nat.le_refl _⟩
  cases moves with
  | fetch key missed =>
      obtain ⟨hits, misses, compilations⟩ := counters_fetchSlot cache key
      rw [hits, misses, compilations]
      exact ⟨unchanged .., unchanged .., unchanged ..⟩
  | hit key missed slot entry filled =>
      obtain rfl : missed = false := marked
      exact ⟨⟨rfl, Nat.le_succ _⟩, unchanged .., unchanged ..⟩
  | miss key missed slot empty =>
      obtain rfl : missed = false := marked
      exact ⟨unchanged .., ⟨rfl, Nat.le_succ _⟩, unchanged ..⟩
  | fill key missed slot entry =>
      obtain rfl : missed = true := marked
      exact ⟨unchanged .., unchanged .., ⟨rfl, Nat.le_succ _⟩⟩
  | map key missed slot entry =>
      obtain ⟨hits, misses, compilations⟩ := counters_mapSlot cache key slot
      obtain rfl : missed = true := marked
      rw [hits, misses, compilations]
      exact ⟨unchanged .., unchanged .., unchanged ..⟩
  | release key missed slot result =>
      cases result <;> exact ⟨unchanged .., unchanged .., unchanged ..⟩
  | succeed key missed slot entry | fail key missed slot error | drop key missed slot error =>
      obtain rfl : missed = true := marked
      exact ⟨unchanged .., unchanged .., unchanged ..⟩
  | lock key missed slot free => exact ⟨unchanged .., unchanged .., unchanged ..⟩

end Step
end Request

/-! ## Counting requests -/

theorem ite_eq_toNat (holds : Bool) : (if holds = true then 1 else 0) = holds.toNat := by
  cases holds <;> rfl

/-- A count of requests changes only by the one that is replaced. -/
theorem countP_set_add
    {requests : List (Request ε)}
    {position : Nat}
    {earlier : Request ε}
    (property : Request ε → Bool)
    (found : requests[position]? = some earlier)
    (later : Request ε) :
    (requests.set position later).countP property + (property earlier).toNat =
      requests.countP property + (property later).toNat := by
  obtain ⟨inRange, rfl⟩ := List.getElem?_eq_some_iff.mp found
  have counted : (property requests[position]).toNat ≤ requests.countP property := by
    cases holds : property requests[position] with
    | false => exact Nat.zero_le _
    | true => exact List.countP_pos_iff.mpr ⟨_, List.getElem_mem inRange, holds⟩
  rw [List.countP_set inRange, ite_eq_toNat, ite_eq_toNat]
  omega

/-- Requests are counted in two parts if each belongs to one of them. -/
theorem countP_eq_add
    {requests : List (Request ε)}
    {whole first second : Request ε → Bool}
    (splits : ∀ request ∈ requests,
      (whole request).toNat = (first request).toNat + (second request).toNat) :
    requests.countP whole = requests.countP first + requests.countP second := by
  induction requests with
  | nil => rfl
  | cons request rest inductionHypothesis =>
      have isSplit := splits request List.mem_cons_self
      have restSplit := inductionHypothesis fun other member =>
        splits other (List.mem_cons_of_mem _ member)
      simp only [List.countP_cons, ite_eq_toNat]
      omega

namespace Shared

/-- The counters of a cache are those of the requests to it. -/
structure Counted (shared : Shared ε) : Prop where
  marked : ∀ request ∈ shared.requests, request.Marked
  hits : shared.cache.hits = shared.requests.countP Request.isHit
  misses : shared.cache.misses = shared.requests.countP Request.missed
  compilations : shared.cache.compilations = shared.requests.countP Request.compiled

theorem Counted.step
    {shared next : Shared ε}
    (counted : shared.Counted)
    (step : Shared.Step shared next) :
    next.Counted := by
  cases step with
  | request position earlier later moved found moves =>
      have marked := counted.marked earlier (List.mem_of_getElem? found)
      obtain ⟨⟨hits, _⟩, ⟨misses, _⟩, ⟨compilations, _⟩⟩ := moves.counts marked
      have countsHits := countP_set_add Request.isHit found later
      have countsMisses := countP_set_add Request.missed found later
      have countsCompilations := countP_set_add Request.compiled found later
      rw [← counted.hits] at countsHits
      rw [← counted.misses] at countsMisses
      rw [← counted.compilations] at countsCompilations
      refine ⟨fun request member => ?_, ?_, ?_, ?_⟩
      · rcases List.mem_or_eq_of_mem_set member with unmoved | rfl
        · exact counted.marked request unmoved
        · exact moves.marked marked
      · change moved.hits = (shared.requests.set position later).countP Request.isHit
        omega
      · change moved.misses = (shared.requests.set position later).countP Request.missed
        omega
      · change moved.compilations = (shared.requests.set position later).countP Request.compiled
        omega

/-- No request has a property that none has before its first step. -/
theorem countP_start
    {property : Request ε → Bool}
    (fresh : ∀ key, property ⟨key, .arriving, false⟩ = false)
    (cache : BindingCache ε)
    (keys : List Fingerprint) :
    (start cache keys).requests.countP property = 0 := by
  rw [List.countP_eq_zero]
  intro request member
  obtain ⟨key, _, rfl⟩ := List.mem_map.mp member
  simp [fresh]

theorem Counted.reaches
    {first last : Shared ε}
    (counted : first.Counted)
    (run : Shared.Reaches first last) :
    last.Counted := by
  induction run with
  | refl => exact counted
  | tail run step inductionHypothesis => exact inductionHypothesis.step step

/-- Nothing is counted before the first step of the requests to an empty cache. -/
theorem counted_start (keys : List Fingerprint) :
    (start ({} : BindingCache ε) keys).Counted where
  marked request member := by
    obtain ⟨key, _, rfl⟩ := List.mem_map.mp member
    rfl
  hits := (countP_start (fun _ => rfl) {} keys).symm
  misses := (countP_start (fun _ => rfl) {} keys).symm
  compilations := (countP_start (fun _ => rfl) {} keys).symm

end Shared
end BindingCache
end RowBinding
