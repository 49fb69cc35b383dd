import Sophia.ApiAuthority

namespace Sophia.Api
open TracedRun StepRun ApiKeys HatSwitch AgentLoop

def IsAdmin (record : APIKeyRecord) : Prop := record.isActive = true ∧ "admin" ∈ record.scopes

-- No key that is left can administer, and no request that could is under way.
structure Locked (s : Server) : Prop where
  keyed : s.auth.keys.rows ≠ []
  rows : ∀ row ∈ s.auth.keys.rows, ¬ IsAdmin row
  looking : ∀ asked ∈ s.looking, asked.request.scope = "admin" → ∀ record ∈ asked.record, ¬ IsAdmin record
  admitted : ∀ key request, .keyed key request ∈ s.admitted → request.scope ≠ "admin"

section
variable {app : Deployment} {s : Server} {input : Input}

theorem Locked.keys (locked : Locked s) : (step app s input).auth.keys = s.auth.keys := by
  obtain ⟨new,moves,_⟩ := step_keys app s input
  generalize (step app s input).auth.keys = keys at moves
  cases moves with
  | same => rfl
  | bootstrapped none _ => exact absurd none locked.keyed
  | created there _ => exact absurd rfl (locked.admitted _ _ (List.mem_of_getElem? there))
  | revoked there _ _ _ => exact absurd rfl (locked.admitted _ _ (List.mem_of_getElem? there))

theorem Locked.step (locked : Locked s) : Locked (step app s input) := by
  have still : (Api.step app s input).auth.keys = s.auth.keys := locked.keys
  refine ⟨still ▸ locked.keyed,still ▸ locked.rows,?_,?_⟩
  · clear still
    generalize reached : Api.step app s input = t
    intro asked present
    cases reached ▸ step_moves app s input with
    | starts _ => cases present
    | bootstraps none _ => exact absurd none locked.keyed
    | @looks authorization request record read =>
      rcases List.mem_append.mp present with earlier | last
      · exact locked.looking asked earlier
      · cases List.mem_singleton.mp last
        rintro _ record rfl
        exact locked.rows record (lookUp_member read)
    | refuses _ _ => exact locked.looking asked (List.mem_of_mem_eraseIdx present)
    | grants _ _ => exact locked.looking asked (List.mem_of_mem_eraseIdx present)
    | serves _ _ =>
      rw [(serveAgent_parts ..).2.2.1] at present
      exact locked.looking asked present
    | administers _ =>
      rw [(administer_parts ..).2.2.1] at present
      exact locked.looking asked present
    | stays _ _ => exact locked.looking asked present
    | opens _ => exact locked.looking asked present
    | visits => exact locked.looking asked present
    | connects => exact locked.looking asked present
    | tells _ _ _ => exact locked.looking asked present
  · clear still
    generalize reached : Api.step app s input = t
    intro key request present
    cases reached ▸ step_moves app s input with
    | starts _ => cases present
    | bootstraps none _ => exact absurd none locked.keyed
    | opens _ =>
      rcases List.mem_append.mp present with earlier | last
      · exact locked.admitted key request earlier
      · cases List.mem_singleton.mp last
    | @grants n asked occasion key there settled =>
      rcases List.mem_append.mp present with earlier | last
      · exact locked.admitted _ request earlier
      · cases List.mem_singleton.mp last
        obtain ⟨found,active,_,inside,_⟩ := settle_returns settled
        intro admin
        exact locked.looking asked (List.mem_of_getElem? there) admin key found ⟨active,admin ▸ inside⟩
    | serves _ _ =>
      rw [(serveAgent_parts ..).2.2.2.1] at present
      exact locked.admitted key request (List.mem_of_mem_eraseIdx present)
    | administers _ =>
      rw [(administer_parts ..).2.2.2.1] at present
      exact locked.admitted key request (List.mem_of_mem_eraseIdx present)
    | stays _ _ => exact locked.admitted key request present
    | looks _ => exact locked.admitted key request present
    | refuses _ _ => exact locked.admitted key request present
    | visits => exact locked.admitted key request present
    | connects => exact locked.admitted key request present
    | tells _ _ _ => exact locked.admitted key request present

theorem Locked.run (locked : Locked s) (inputs : List Input) :
    Locked (after (Api.step app) s inputs) ∧ (after (Api.step app) s inputs).auth.keys = s.auth.keys := by
  induction inputs using List.reverseRecOn with
  | nil => exact ⟨locked,rfl⟩
  | append_singleton earlier input ih =>
    rw [after_last]
    exact ⟨ih.1.step,ih.1.keys.trans ih.2⟩

end

-- Whatever comes, restarts too: nobody can administer again, and the keys stay as they are.
theorem lockout (app : Deployment) (s : Server) (locked : Locked s) (inputs : List Input) :
    (after (step app) s inputs).auth.keys = s.auth.keys ∧
      ∀ key request, .keyed key request ∈ (after (step app) s inputs).admitted → request.scope ≠ "admin" :=
  ⟨(locked.run inputs).2,(locked.run inputs).1.admitted⟩

def plainApp : Deployment := {hashKey := id,errorText := fun _ => "",newLoop,bare := rfl}

def firstDay : Occasion := ⟨1,1,1,"00","b1"⟩

def clerk : Scene := {occasion := ⟨2,2,2,"01","b2"⟩,around := Hats.disk,env := calm inquiry [],cache := ∅}

-- The bootstrap key revokes itself.
def resigned : List Input := [.start true firstDay,.arrive "Bearer sk-sophia-bootstrap-00" (.admin (.revokeKey "b1")),
  .check 0 ⟨2,2,2,"01","b2"⟩,.handle 0 clerk]

theorem resigned_locked : Locked (serverAfter plainApp resigned) := by
  have rows : (serverAfter plainApp resigned).auth.keys.rows = [{(bootstrapRecord plainApp firstDay).2 with isActive := false}] := by
    rfl
  have idle : (serverAfter plainApp resigned).looking = [] ∧ (serverAfter plainApp resigned).admitted = [] := ⟨rfl,rfl⟩
  refine ⟨by simp [rows],fun row member admin => ?_,by simp [idle.1],by simp [idle.2]⟩
  rw [rows] at member
  cases List.mem_singleton.mp member
  cases admin.1

theorem lockout_restart : (after (step plainApp) (serverAfter plainApp resigned) [.start true firstDay]).auth.keys =
    (serverAfter plainApp resigned).auth.keys :=
  (lockout plainApp (serverAfter plainApp resigned) resigned_locked [.start true firstDay]).1

end Sophia.Api
