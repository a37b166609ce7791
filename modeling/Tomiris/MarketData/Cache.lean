import Tomiris.ForStd.BoundedMap
import Tomiris.Contracts.Orchestration

/-!
# The market-data cache

`InMemoryMarketDataCache`: a bounded dictionary whose entries expire. The values are of any type.
-/

namespace Tomiris

/-- `_CacheEntry`. -/
structure CacheEntry (V : Type) where
  value : V
  expiresAt : Int

/-- `InMemoryMarketDataCache`, its dictionary as a list in insertion order. -/
structure InMemoryMarketDataCache (V : Type) where
  maxEntries : Nat := 256
  entries : List (String × CacheEntry V) := []

namespace InMemoryMarketDataCache

variable {V : Type}

/-- `get`: an expired entry is dropped. -/
def get (cache : InMemoryMarketDataCache V) (key : String) (now : Int) :
    InMemoryMarketDataCache V × Option V :=
  match cache.entries.lookup key with
  | none => (cache, none)
  | some entry =>
    if entry.expiresAt ≤ now then
      ({ cache with entries := cache.entries.filter (fun e => e.1 != key) }, none)
    else (cache, some entry.value)

/-- `put`: a known key keeps its place, a new one may push the oldest out. -/
def put (cache : InMemoryMarketDataCache V) (key : String) (value : V) (now : Int)
    (ttlSeconds : Nat) : InMemoryMarketDataCache V :=
  let entry : CacheEntry V := ⟨value, now + seconds ttlSeconds⟩
  if (cache.entries.lookup key).isSome then
    { cache with
      entries := cache.entries.map (fun e => if e.1 = key then (key, entry) else e) }
  else { cache with entries := BoundedMap.add cache.maxEntries cache.entries key entry }

end InMemoryMarketDataCache

end Tomiris
