import TreeKeeper.Filter.Meaning
import TreeKeeper.Policy.Action

/-
  Policies: a filter for the entries they concern, and rules,
  of which the first one that matches an entry decides what
  happens to it.

  Key definitions include:
    * `Rule`
    * `Policy`
    * `Selection`
    * `Policy.select`
-/

------------------------------------------------------------
-- Policies
------------------------------------------------------------

namespace TreeKeeper

/- A rule.  Without a filter it matches every entry. -/
structure Rule where
  name : String
  filter : Option Filter
  action : Action

/-
  A policy.  Entries that its filter rejects are left alone,
  and the fallback is for entries that match no rule.
-/
structure Policy where
  name : String
  filter : Option Filter
  sorts : List SortKey
  rules : List Rule
  fallback : Action

------------------------------------------------------------
-- Selection
------------------------------------------------------------

/- Which part of a policy decides about an entry. -/
inductive Selection where
| excluded
| matched (index : Nat)
| unmatched
deriving DecidableEq

namespace Policy

/- The part of a policy that decides about an entry. -/
def select (policy : Policy) (entry : Entry) : Selection :=
  if Filter.admits policy.filter entry then
    match policy.rules.findIdx? fun rule =>
        Filter.admits rule.filter entry with
    | some index => .matched index
    | none => .unmatched
  else .excluded

/- The name of the part that decides. -/
def ruleName
    (policy : Policy) : Selection → String
| .excluded => "excluded"
| .matched index =>
    ((policy.rules[index]?).map Rule.name).getD ""
| .unmatched => "fallback"

/- The action of the part that decides. -/
def actionFor
    (policy : Policy) : Selection → Option Action
| .excluded => none
| .matched index =>
    (policy.rules[index]?).map Rule.action
| .unmatched => some policy.fallback

end Policy

end TreeKeeper
