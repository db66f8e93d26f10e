import RowAccess.Context
import RowAccess.Journal

/-!
# Resolved data

Data that policies need but that takes a look-up, such as memberships, is resolved
before evaluation and attached to the request. A cache keeps what was resolved for a user
and a tenant until it expires; a failed look-up is not kept. A look-up may take a while,
so a call is split in two: it either answers from the cache or is under way, and when the
look-up comes back its result is stored.
-/

namespace RowAccess

/-- Why data could not be resolved. -/
inductive ResolverError where
  | failed (reason : String)
  | unavailable (userId : String)
  deriving DecidableEq, Repr

def ResolverError.message : ResolverError → String
  | .failed reason => "Context resolution failed: " ++ reason
  | .unavailable userId => "Context resolution is not available for user '" ++ userId ++ "'"

/-- What cached data belongs to. A missing tenant differs from every tenant. -/
structure CacheKey where
  userId : String
  tenantId : Option String
  deriving DecidableEq, Repr

def Caller.cacheKey (c : Caller) : CacheKey := ⟨c.userId, c.tenantId⟩

/-- Data with the time at which it was resolved. -/
structure CacheEntry where
  key : CacheKey
  value : Value
  resolvedAt : Nat

/-- Resolved data, at most one entry for a key. Times count in seconds. -/
structure Cache where
  ttl : Nat
  entries : List CacheEntry

namespace Cache

def empty (ttl : Nat) : Cache := ⟨ttl, []⟩

/-- The entry is younger than the time to live. -/
def isFresh (c : Cache) (now : Nat) (e : CacheEntry) : Bool := now - e.resolvedAt < c.ttl

/-- The entries, expired ones included. -/
def size (c : Cache) : Nat := c.entries.length

/-- The fresh value of a key. -/
def lookup? (c : Cache) (now : Nat) (key : CacheKey) : Option Value :=
  (c.entries.find? fun e => e.key == key && c.isFresh now e).map CacheEntry.value

/-- Drops the expired entries. -/
def purge (c : Cache) (now : Nat) : Cache := { c with entries := c.entries.filter (c.isFresh now) }

/-- Keeps a value, in the place of an older one of its key. -/
def store (c : Cache) (now : Nat) (key : CacheKey) (v : Value) : Cache :=
  { c with entries := (c.entries.filter fun e => e.key != key) ++ [⟨key, v, now⟩] }

/-- Starts a resolution: the cached value, or nothing while a look-up is needed. -/
def start (c : Cache) (now : Nat) (caller : Caller) : Report (Option Value) :=
  let line (message : String) : LogEvent :=
    { level := .debug, message, fields := [("user_id", .string caller.userId)] }
  match c.lookup? now caller.cacheKey with
  | some v => .noting (some v) [line "Resolver cache hit"]
  | none => .noting none [line "Resolver cache miss"]

/-- Takes the result of a look-up: a value is kept and the expired entries are dropped; a
failure changes nothing. -/
def finish (c : Cache) (now : Nat) (key : CacheKey) (result : Except ResolverError Value) : Cache :=
  match result with
  | .ok v => (c.purge now).store now key v
  | .error _ => c

/-- Resolves with a look-up that keeps a state of its own and takes some time: its result is stored
when it comes back. -/
def resolveTaking {σ : Type} (c : Cache) (now took : Nat) (caller : Caller)
    (lookUp : σ → Caller → Except ResolverError Value × σ) (state : σ) :
    Report (Except ResolverError Value × Cache × σ) :=
  (c.start now caller).map fun hit =>
    match hit with
    | some v => (.ok v, c, state)
    | none =>
      let (result, state) := lookUp state caller
      (result, c.finish (now + took) caller.cacheKey result, state)

/-- Resolves at once. -/
def resolve {σ : Type} (c : Cache) (now : Nat) (caller : Caller)
    (lookUp : σ → Caller → Except ResolverError Value × σ) (state : σ) :
    Report (Except ResolverError Value × Cache × σ) :=
  c.resolveTaking now 0 caller lookUp state

end Cache

/-- Attaches resolved data to a request; a failure leaves the request as it is. -/
def Request.inject (r : Request) (name : String) (result : Except ResolverError Value) :
    Request × Except ResolverError Unit :=
  match result with
  | .ok v => (r.attach name v, .ok ())
  | .error e => (r, .error e)

end RowAccess
