import GemSurvey.Bucket
import Mathlib.Data.List.Induction
import Mathlib.Data.List.Nodup

/-! Buckets hold what was put into them in the order in which it first came. The names of a kind,
each with the role of the file that it came from, settle both of the kind's buckets. -/
namespace GemSurvey

def firstSeen (role : Role) (named : List (Role × Text)) : List Text :=
  ((named.filter fun entry => entry.1 = role).map Prod.snd).eraseDups

theorem memFirstSeen {role named name} : name ∈ firstSeen role named ↔ (role, name) ∈ named := by
  simp only [firstSeen, List.mem_eraseDups, List.mem_map, List.mem_filter, decide_eq_true_eq]
  constructor
  · rintro ⟨⟨_, _⟩, ⟨member, rfl⟩, rfl⟩
    exact member
  · intro member
    exact ⟨(role, name), ⟨member, rfl⟩, rfl⟩

namespace Bucket

theorem insertNext (names : List Text) (name : Text) :
    Bucket.insert ⟨names.eraseDups⟩ name = ⟨(names ++ [name]).eraseDups⟩ := by
  rw [List.eraseDups_append]
  by_cases seen : name ∈ names
  · simp [insert, contains, List.removeAll, seen]
  · simp [insert, contains, List.removeAll, seen, List.eraseDups_cons]

theorem insertNodup {b : Bucket} {name} (once : b.names.Nodup) : (b.insert name).names.Nodup := by
  unfold insert
  split
  · exact once
  · rename_i absent
    refine once.append (List.nodup_singleton name) ?_
    simpa [contains] using absent

theorem nodupEraseDups (names : List Text) : names.eraseDups.Nodup := by
  induction names using List.reverseRecOn with
  | nil => simp
  | append_singleton rest name ih =>
    have grown : (Bucket.insert ⟨rest.eraseDups⟩ name).names.Nodup := insertNodup ih
    rwa [insertNext] at grown

end Bucket

theorem nodupFirstSeen (role : Role) (named : List (Role × Text)) :
    (firstSeen role named).Nodup := Bucket.nodupEraseDups _

namespace Needs

def ofNamed (named : List (Role × Text)) : Needs :=
  ⟨⟨firstSeen .distributed named⟩, ⟨firstSeen .auxiliary named⟩⟩

theorem forRoleNamed (role : Role) (named : List (Role × Text)) :
    ((ofNamed named).forRole role).names = firstSeen role named := by
  cases role <;> rfl

theorem insertNamed (named : List (Role × Text)) (role : Role) (name : Text) :
    (ofNamed named).insert role name = ofNamed (named ++ [(role, name)]) := by
  cases role <;> simp [insert, ofNamed, firstSeen, Bucket.insertNext]

theorem memDevelopmentOnly {named name} :
    name ∈ (ofNamed named).developmentOnly ↔
      (Role.auxiliary, name) ∈ named ∧ (Role.distributed, name) ∉ named := by
  simp [developmentOnly, ofNamed, Bucket.contains, memFirstSeen]

theorem nodupDevelopmentOnly (named : List (Role × Text)) :
    (ofNamed named).developmentOnly.Nodup := (nodupFirstSeen _ _).filter _

end Needs
end GemSurvey
