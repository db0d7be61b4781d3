import Storyboard.Path.Cache

/-!
# What a cache of paths remembers

A cache that is filled by parsing remembers for every path what parsing it afresh
returns, so that parsing through the cache has the same outcome.  Such are the caches
that can be reached from an empty one.
-/

namespace Storyboard
namespace Path
namespace Cache

/-- Whatever the cache remembers of a path is what parsing the path returns. -/
def Faithful (cache : Cache) : Prop :=
  ∀ path components, Table.get? cache path = some components →
    Path.parse path = .ok components

theorem faithful_nil : Faithful [] := by
  intro path components found
  cases found

/-- Parsing through a faithful cache has the outcome of parsing afresh. -/
theorem Faithful.fst_parse
    {cache : Cache}
    (faithful : cache.Faithful)
    (path : String) :
    (cache.parse path).1 = Path.parse path := by
  cases found : Table.get? cache path with
  | some components =>
      rw [faithful path components found]
      simp [Cache.parse, found]
  | none =>
      cases parsed : Path.parse path <;>
        simp [Cache.parse, found, parsed]

/-- Parsing through a cache keeps it faithful. -/
theorem Faithful.snd_parse
    {cache : Cache}
    (faithful : cache.Faithful)
    (path : String) :
    (cache.parse path).2.Faithful := by
  cases found : Table.get? cache path with
  | some components => simpa [Cache.parse, found] using faithful
  | none =>
      cases parsed : Path.parse path with
      | error error => simpa [Cache.parse, found, parsed] using faithful
      | ok components =>
          simp only [Cache.parse, found, parsed]
          intro other remembered member
          rw [Table.get?_insert] at member
          split at member
          · next same =>
              cases member
              exact same ▸ parsed
          · exact faithful other remembered member

/-- The outcome of a parse is what is remembered of the path, or else that of parsing afresh. -/
theorem fst_parse_eq
    (cache : Cache)
    (path : String) :
    (cache.parse path).1 = (Table.get? cache path).elim (Path.parse path) .ok := by
  cases found : Table.get? cache path with
  | some components => simp [Cache.parse, found]
  | none => cases parsed : Path.parse path <;> simp [Cache.parse, found, parsed]

/-- Two caches through which every path is parsed with the same outcome. -/
def Agrees (cache other : Cache) : Prop :=
  ∀ path, (cache.parse path).1 = (other.parse path).1

theorem Agrees.refl (cache : Cache) : cache.Agrees cache := fun _ => rfl

/-- What a parse adds to a cache changes the outcome of no other. -/
theorem Agrees.snd_parse
    {cache other : Cache}
    (agrees : cache.Agrees other)
    (path : String) :
    (cache.parse path).2.Agrees other := by
  intro text
  rw [← agrees text]
  cases found : Table.get? cache path with
  | some components => simp [Cache.parse, found]
  | none =>
      cases parsed : Path.parse path with
      | error error => simp [Cache.parse, found, parsed]
      | ok components =>
          have remembered : (cache.parse path).2 = Table.insert cache path components := by
            simp [Cache.parse, found, parsed]
          rw [remembered, fst_parse_eq, fst_parse_eq, Table.get?_insert]
          split
          · next same =>
              rw [← same, found]
              exact parsed.symm
          · rfl

/-- What parses make of an empty cache.  A cache that is cleared is empty again. -/
inductive Reachable : Cache → Prop where
  /-- Nothing is remembered. -/
  | empty : Reachable []
  /-- A path is parsed. -/
  | parse {cache : Cache} (reachable : Reachable cache) (path : String) :
      Reachable (cache.parse path).2

/-- A cache that can be reached is faithful. -/
theorem Reachable.faithful
    {cache : Cache}
    (reachable : cache.Reachable) :
    cache.Faithful := by
  induction reachable with
  | empty => exact faithful_nil
  | parse reachable path inductionHypothesis => exact inductionHypothesis.snd_parse path

end Cache
end Path
end Storyboard
