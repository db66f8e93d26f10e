import RowAccess.Resolver

/-!
# Runs of a cached resolver

A run is a list of calls on one cache, each some time after the one
before it, around a look-up that keeps a state of its own and may fail or
change its mind from one call to the next. The host of the look-up writes
down every one that is made (`Host.past`) and when it came back. So
"the look-up is made" is about the list growing, and "was looked up" is
about what stands in it.

`Cache.Sound` is the invariant: an entry stems from a look-up for its own
user and tenant, and each pair has at most one. `Session.sound_perform`
is the step, `Session.sound_run` the run. What one call does is
`Session.resolution`, and `Session.resolution_of_run` joins the two.
-/

namespace RowAccess

variable {σ : Type}

namespace Cache

/-- There is an entry for the user and the tenant of the caller that is younger than the time to
live. -/
def HoldsYoung (c : Cache) (now : Nat) (caller : Caller) : Prop :=
  ∃ e ∈ c.entries, e.key.userId = caller.userId ∧ e.key.tenantId = caller.tenantId ∧
    now < e.resolvedAt + c.ttl

end Cache

/-! ## Runs -/

/-- A look-up that was made: for whom, what it gave, and when it came back. -/
structure LookUp where
  caller : Caller
  result : Except ResolverError Value
  time : Nat

/-- Where the look-ups are made: their own state, the time, and all that were made. -/
structure Host (σ : Type) where
  inner : σ
  clock : Nat
  past : List LookUp

/-- A look-up at its host: it takes time and is written down. -/
def Host.watched (lookUp : σ → Caller → Except ResolverError Value × σ) (took : Nat) (h : Host σ)
    (caller : Caller) : Except ResolverError Value × Host σ :=
  let r := lookUp h.inner caller
  let done := h.clock + took
  (r.1, { inner := r.2, clock := done, past := h.past ++ [⟨caller, r.1, done⟩] })

/-- A call on the cache, some time after the end of the one before. -/
inductive CacheCall where
  | resolve (wait : Nat) (caller : Caller) (took : Nat)
  | purge (wait : Nat)

/-- A cache and the host of the look-ups behind it. -/
structure Session (σ : Type) where
  cache : Cache
  host : Host σ

namespace Session

variable (lookUp : σ → Caller → Except ResolverError Value × σ)

def start (ttl : Nat) (inner : σ) : Session σ := ⟨Cache.empty ttl, ⟨inner, 0, []⟩⟩

def after (s : Session σ) (wait : Nat) : Session σ :=
  { s with host := { s.host with clock := s.host.clock + wait } }

/-- Resolves now. -/
def resolve (s : Session σ) (caller : Caller) (took : Nat) :
    Except ResolverError Value × Session σ :=
  let r := (s.cache.resolveTaking s.host.clock took caller (Host.watched lookUp took) s.host).result
  (r.1, ⟨r.2.1, r.2.2⟩)

/-- Drops what is expired now. -/
def purge (s : Session σ) : Session σ := { s with cache := s.cache.purge s.host.clock }

def perform (s : Session σ) : CacheCall → Session σ
  | .resolve wait caller took => ((s.after wait).resolve lookUp caller took).2
  | .purge wait => (s.after wait).purge

def run (s : Session σ) (calls : List CacheCall) : Session σ := calls.foldl (perform lookUp) s

end Session

/-! ## What the cache answers -/

namespace Cache

variable {c : Cache} {now took : Nat} {caller : Caller} {v : Value}

theorem result_start (c : Cache) (now : Nat) (caller : Caller) :
    (c.start now caller).result = c.lookup? now caller.cacheKey := by
  unfold start
  cases c.lookup? now caller.cacheKey <;> rfl

/-- The entry answers for the caller now. -/
theorem answers_iff {e : CacheEntry} (hpast : e.resolvedAt ≤ now) :
    (e.key == caller.cacheKey && c.isFresh now e) = true ↔
      e.key.userId = caller.userId ∧ e.key.tenantId = caller.tenantId ∧
        now < e.resolvedAt + c.ttl := by
  obtain ⟨⟨user, tenant⟩, value, resolvedAt⟩ := e
  simp only [Bool.and_eq_true, beq_iff_eq, Caller.cacheKey, CacheKey.mk.injEq, isFresh,
    decide_eq_true_eq, and_assoc]
  have hage : now - resolvedAt < c.ttl ↔ now < resolvedAt + c.ttl := by
    have : resolvedAt ≤ now := hpast
    omega
  rw [hage]

theorem lookup?_eq_none_iff (hpast : ∀ e ∈ c.entries, e.resolvedAt ≤ now) :
    c.lookup? now caller.cacheKey = none ↔ ¬ c.HoldsYoung now caller := by
  rw [lookup?, Option.map_eq_none_iff, List.find?_eq_none]
  constructor
  · rintro hnone ⟨e, he, hyoung⟩
    exact hnone e he ((answers_iff (hpast e he)).mpr hyoung)
  · intro hnone e he hanswers
    exact hnone ⟨e, he, (answers_iff (hpast e he)).mp hanswers⟩

theorem exists_of_lookup? (hpast : ∀ e ∈ c.entries, e.resolvedAt ≤ now)
    (h : c.lookup? now caller.cacheKey = some v) :
    ∃ e ∈ c.entries, (e.key.userId = caller.userId ∧ e.key.tenantId = caller.tenantId ∧
      now < e.resolvedAt + c.ttl) ∧ e.value = v := by
  obtain ⟨e, hfind, hvalue⟩ := Option.map_eq_some_iff.mp h
  have he := List.mem_of_find?_eq_some hfind
  have hanswers : (e.key == caller.cacheKey && c.isFresh now e) = true := by
    simpa using List.find?_some hfind
  exact ⟨e, he, (answers_iff (hpast e he)).mp hanswers, hvalue⟩

theorem mem_purge {e : CacheEntry} (hpast : e.resolvedAt ≤ now) :
    e ∈ (c.purge now).entries ↔ e ∈ c.entries ∧ now < e.resolvedAt + c.ttl := by
  rw [purge, List.mem_filter, isFresh, decide_eq_true_eq]
  refine and_congr_right fun _ => ?_
  omega

theorem mem_store {key : CacheKey} {e : CacheEntry} :
    e ∈ (c.store now key v).entries ↔ e = ⟨key, v, now⟩ ∨ e ∈ c.entries ∧ e.key ≠ key := by
  rw [store, List.mem_append, List.mem_filter, List.mem_singleton, bne_iff_ne, or_comm]

theorem nodup_purge (h : (c.entries.map CacheEntry.key).Nodup) :
    ((c.purge now).entries.map CacheEntry.key).Nodup :=
  h.sublist (List.filter_sublist.map CacheEntry.key)

theorem nodup_store (h : (c.entries.map CacheEntry.key).Nodup) (key : CacheKey) :
    ((c.store now key v).entries.map CacheEntry.key).Nodup := by
  rw [store, List.map_append, List.nodup_append]
  refine ⟨h.sublist (List.filter_sublist.map CacheEntry.key), List.pairwise_singleton _ _, ?_⟩
  rintro other hother _ hkey rfl
  obtain ⟨e, he, rfl⟩ := List.mem_map.mp hother
  rw [List.mem_filter, bne_iff_ne] at he
  exact he.2 (List.mem_singleton.mp hkey)

/-! ## One call -/

theorem resolveTaking_of_hit (h : c.lookup? now caller.cacheKey = some v)
    (lookUp : σ → Caller → Except ResolverError Value × σ) (state : σ) :
    (c.resolveTaking now took caller lookUp state).result = (.ok v, c, state) := by
  rw [resolveTaking, Report.result_map, result_start, h]

theorem resolveTaking_of_miss (h : c.lookup? now caller.cacheKey = none)
    (lookUp : σ → Caller → Except ResolverError Value × σ) (state : σ) :
    (c.resolveTaking now took caller lookUp state).result =
      ((lookUp state caller).1, c.finish (now + took) caller.cacheKey (lookUp state caller).1,
        (lookUp state caller).2) := by
  rw [resolveTaking, Report.result_map, result_start, h]

/-- What becomes of the cache when a value comes back: the new entry, and of the others those that
are not for the same pair and have not expired in the meantime. -/
theorem mem_finish {done : Nat} {key : CacheKey} {e : CacheEntry}
    (hpast : ∀ e ∈ c.entries, e.resolvedAt ≤ done) :
    e ∈ (c.finish done key (.ok v)).entries ↔
      e = ⟨key, v, done⟩ ∨ e ∈ c.entries ∧ e.key ≠ key ∧ done < e.resolvedAt + c.ttl := by
  rw [finish, mem_store]
  refine or_congr_right ?_
  constructor
  · rintro ⟨he, hkey⟩
    have hstored : e ∈ c.entries := (List.mem_filter.mp he).1
    exact ⟨hstored, hkey, ((mem_purge (hpast e hstored)).mp he).2⟩
  · rintro ⟨he, hkey, hyoung⟩
    exact ⟨(mem_purge (hpast e he)).mpr ⟨he, hyoung⟩, hkey⟩

/-! ## The invariant -/

/-- Every entry was looked up for its own user and tenant, at the time that it says, and no two
entries are for the same pair. -/
structure Sound (c : Cache) (ttl : Nat) (h : Host σ) : Prop where
  ttl : c.ttl = ttl
  distinct : (c.entries.map CacheEntry.key).Nodup
  past : ∀ e ∈ c.entries, e.resolvedAt ≤ h.clock
  lookedUp : ∀ e ∈ c.entries, ∃ l ∈ h.past, l.caller.userId = e.key.userId ∧
    l.caller.tenantId = e.key.tenantId ∧ l.result = .ok e.value ∧ l.time = e.resolvedAt

namespace Sound

variable {ttl : Nat} {h h' : Host σ}

/-- Time goes by, and more look-ups are made. -/
theorem later (hs : c.Sound ttl h) (hclock : h.clock ≤ h'.clock)
    (hpast : ∀ l ∈ h.past, l ∈ h'.past) : c.Sound ttl h' where
  ttl := hs.ttl
  distinct := hs.distinct
  past := fun e he => Nat.le_trans (hs.past e he) hclock
  lookedUp := by
    intro e he
    obtain ⟨l, hl, hlooked⟩ := hs.lookedUp e he
    exact ⟨l, hpast l hl, hlooked⟩

theorem purge (hs : c.Sound ttl h) (now : Nat) : (c.purge now).Sound ttl h where
  ttl := hs.ttl
  distinct := nodup_purge hs.distinct
  past := fun e he => hs.past e (List.mem_filter.mp he).1
  lookedUp := fun e he => hs.lookedUp e (List.mem_filter.mp he).1

theorem store (hs : c.Sound ttl h) (hl : ⟨caller, .ok v, now⟩ ∈ h.past) (hnow : now ≤ h.clock) :
    (c.store now caller.cacheKey v).Sound ttl h where
  ttl := hs.ttl
  distinct := nodup_store hs.distinct caller.cacheKey
  past := by
    intro e he
    rcases mem_store.mp he with rfl | ⟨he, -⟩
    · exact hnow
    · exact hs.past e he
  lookedUp := by
    intro e he
    rcases mem_store.mp he with rfl | ⟨he, -⟩
    · exact ⟨_, hl, rfl, rfl, rfl, rfl⟩
    · exact hs.lookedUp e he

/-- What was looked up for a caller may be taken in under the key of the caller. -/
theorem finish (hs : c.Sound ttl h) {result : Except ResolverError Value}
    (hl : ⟨caller, result, now⟩ ∈ h.past) (hnow : now ≤ h.clock) :
    (c.finish now caller.cacheKey result).Sound ttl h := by
  cases result with
  | error e => exact hs
  | ok v => exact (hs.purge now).store hl hnow

end Sound

end Cache

namespace Session

variable {lookUp : σ → Caller → Except ResolverError Value × σ} {ttl : Nat} {s : Session σ}

theorem sound_start (ttl : Nat) (inner : σ) :
    (start ttl inner).cache.Sound ttl (start ttl inner).host where
  ttl := rfl
  distinct := List.nodup_nil
  past := fun _ he => absurd he List.not_mem_nil
  lookedUp := fun _ he => absurd he List.not_mem_nil

theorem sound_after (hs : s.cache.Sound ttl s.host) (wait : Nat) :
    (s.after wait).cache.Sound ttl (s.after wait).host :=
  hs.later (Nat.le_add_right _ wait) fun _ hl => hl

theorem resolve_of_hit {caller : Caller} {v : Value}
    (h : s.cache.lookup? s.host.clock caller.cacheKey = some v) (took : Nat) :
    s.resolve lookUp caller took = (.ok v, s) := by
  rw [resolve, Cache.resolveTaking_of_hit h]

theorem resolve_of_miss {caller : Caller}
    (h : s.cache.lookup? s.host.clock caller.cacheKey = none) (took : Nat) :
    s.resolve lookUp caller took =
      let answer := (lookUp s.host.inner caller).1
      let done := s.host.clock + took
      (answer,
        { cache := s.cache.finish done caller.cacheKey answer
          host := { inner := (lookUp s.host.inner caller).2, clock := done
                    past := s.host.past ++ [⟨caller, answer, done⟩] } }) := by
  rw [resolve, Cache.resolveTaking_of_miss h]
  rfl

theorem sound_resolve (hs : s.cache.Sound ttl s.host) (caller : Caller) (took : Nat) :
    (s.resolve lookUp caller took).2.cache.Sound ttl (s.resolve lookUp caller took).2.host := by
  cases hlookup : s.cache.lookup? s.host.clock caller.cacheKey with
  | some v =>
      rw [resolve_of_hit hlookup]
      exact hs
  | none =>
      rw [resolve_of_miss hlookup]
      refine (hs.later (Nat.le_add_right _ took) fun _ hl => ?_).finish ?_ (Nat.le_refl _)
      · exact List.mem_append_left _ hl
      · exact List.mem_append_right _ (List.mem_singleton_self _)

theorem sound_perform (hs : s.cache.Sound ttl s.host) (call : CacheCall) :
    (s.perform lookUp call).cache.Sound ttl (s.perform lookUp call).host := by
  cases call with
  | resolve wait caller took => exact sound_resolve (sound_after hs wait) caller took
  | purge wait => exact (sound_after hs wait).purge _

theorem sound_run (hs : s.cache.Sound ttl s.host) (calls : List CacheCall) :
    (s.run lookUp calls).cache.Sound ttl (s.run lookUp calls).host := by
  induction calls generalizing s with
  | nil => exact hs
  | cons call rest ih => exact ih (sound_perform hs call)

/-! ## What a call does -/

/-- A resolution for a caller: `s` is what it finds and `s'` what it leaves behind. -/
structure Resolution (lookUp : σ → Caller → Except ResolverError Value × σ) (s : Session σ)
    (caller : Caller) (took : Nat) (answer : Except ResolverError Value) (s' : Session σ) :
    Prop where
  /-- While there is a young entry, nothing is looked up and nothing changes. -/
  hit : s.cache.HoldsYoung s.host.clock caller → s' = s
  /-- Otherwise the look-up is made, once, and its answer is the answer. -/
  miss : ¬ s.cache.HoldsYoung s.host.clock caller →
    (answer, s'.host.inner) = lookUp s.host.inner caller ∧
      s'.host.past = s.host.past ++ [⟨caller, answer, s.host.clock + took⟩]
  /-- A value was looked up for the same user and tenant, by this call or less than the time to
  live ago. -/
  value : ∀ v, answer = .ok v → ∃ l ∈ s'.host.past, l.caller.userId = caller.userId ∧
    l.caller.tenantId = caller.tenantId ∧ l.result = .ok v ∧
      (s'.host.past = s.host.past ++ [l] ∨
        l ∈ s.host.past ∧ s.host.clock < l.time + s.cache.ttl)
  /-- A failure is that of a look-up, and is not kept. -/
  failure : ∀ e, answer = .error e →
    ¬ s.cache.HoldsYoung s.host.clock caller ∧ s'.cache = s.cache
  /-- A value that was looked up is kept, and beside it only what has not expired. -/
  kept : ¬ s.cache.HoldsYoung s.host.clock caller → ∀ v, answer = .ok v →
    ∀ e, e ∈ s'.cache.entries ↔
      e = ⟨⟨caller.userId, caller.tenantId⟩, v, s.host.clock + took⟩ ∨
        e ∈ s.cache.entries ∧ e.key ≠ ⟨caller.userId, caller.tenantId⟩ ∧
          s.host.clock + took < e.resolvedAt + s.cache.ttl

theorem resolution (hs : s.cache.Sound ttl s.host) (caller : Caller) (took : Nat) :
    Resolution lookUp s caller took (s.resolve lookUp caller took).1
      (s.resolve lookUp caller took).2 := by
  cases hlookup : s.cache.lookup? s.host.clock caller.cacheKey with
  | some v =>
      obtain ⟨e, he, ⟨huser, htenant, hyoung⟩, hv⟩ := Cache.exists_of_lookup? hs.past hlookup
      have hholds : s.cache.HoldsYoung s.host.clock caller := ⟨e, he, huser, htenant, hyoung⟩
      obtain ⟨l, hl, hluser, hltenant, hlresult, hltime⟩ := hs.lookedUp e he
      rw [resolve_of_hit hlookup]
      refine ⟨fun _ => rfl, fun h => absurd hholds h, fun w hw => ?_, nofun,
        fun h => absurd hholds h⟩
      obtain rfl : v = w := Except.ok.inj hw
      exact ⟨l, hl, hluser.trans huser, hltenant.trans htenant, hv ▸ hlresult,
        .inr ⟨hl, hltime ▸ hyoung⟩⟩
  | none =>
      have hnone := (Cache.lookup?_eq_none_iff hs.past).mp hlookup
      have hpast : ∀ e ∈ s.cache.entries, e.resolvedAt ≤ s.host.clock + took := fun e he =>
        Nat.le_trans (hs.past e he) (Nat.le_add_right _ took)
      rw [resolve_of_miss hlookup]
      cases hresult : (lookUp s.host.inner caller).1 with
      | error failure =>
          refine ⟨fun h => absurd h hnone, fun _ => ⟨?_, rfl⟩, nofun, fun _ _ => ⟨hnone, rfl⟩,
            fun _ => nofun⟩
          exact Prod.ext hresult.symm rfl
      | ok v =>
          refine ⟨fun h => absurd h hnone, fun _ => ⟨Prod.ext hresult.symm rfl, rfl⟩,
            fun w hw => ?_, nofun, fun _ w hw e => ?_⟩
          · exact ⟨_, List.mem_append_right _ (List.mem_singleton_self _), rfl, rfl, hw, .inl rfl⟩
          · obtain rfl : v = w := Except.ok.inj hw
            exact Cache.mem_finish hpast

/-- After every run, whatever the look-ups gave, however long they took and however long nothing
happened: a user and a tenant have at most one entry; every further resolution looks up exactly
when there is no young entry for its user and tenant, gives a value of theirs, and keeps it; and
a purge drops exactly what is expired, and looks nothing up. -/
theorem resolution_of_run (lookUp : σ → Caller → Except ResolverError Value × σ) (ttl : Nat)
    (inner : σ) (calls : List CacheCall) (wait : Nat) :
    let s := ((start ttl inner).run lookUp calls).after wait
    s.cache.ttl = ttl ∧ (s.cache.entries.map CacheEntry.key).Nodup ∧
    (∀ caller took, Resolution lookUp s caller took (s.resolve lookUp caller took).1
      (s.resolve lookUp caller took).2) ∧
    s.purge.host = s.host ∧
      ∀ e, e ∈ s.purge.cache.entries ↔ e ∈ s.cache.entries ∧ s.host.clock < e.resolvedAt + ttl := by
  intro s
  have hs : s.cache.Sound ttl s.host :=
    sound_after (sound_run (sound_start ttl inner) calls) wait
  refine ⟨hs.ttl, hs.distinct, resolution hs, rfl, fun e => ?_⟩
  constructor
  · intro he
    have hstored : e ∈ s.cache.entries := (List.mem_filter.mp he).1
    exact ⟨hstored, hs.ttl ▸ ((Cache.mem_purge (hs.past e hstored)).mp he).2⟩
  · rintro ⟨he, hyoung⟩
    exact (Cache.mem_purge (hs.past e he)).mpr ⟨he, hs.ttl.symm ▸ hyoung⟩

/-- The second call is answered from the cache. The third one comes when the entry expires, and the
fourth one is for another tenant. -/
example :
    let ann := Caller.user "ann"
    let calls : List CacheCall :=
      [.resolve 0 ann 0, .resolve 59 ann 0, .resolve 1 ann 0, .resolve 0 (ann.withTenant "b") 0]
    ((start 60 0).run (fun made _ => (.ok default, made + 1)) calls).host.inner = 3 := by
  decide

end Session

end RowAccess
