import Ryuk.Foundation.Dict
import Ryuk.Inference.Policy

/-!
# The deployment registry

Executable deployments under the identities the service owns.  The registry keys them by the
lower-case form of their id, so that two ids that differ in case only cannot both be
registered.
-/

namespace Ryuk
namespace Inference

open Foundation Foundation.Text

/-- A deployment with its engine, of which only the name is read here. -/
structure RegisteredDeployment (lowercase : Lowercase) where
  ref : DeploymentRef
  engineName : String
  capabilities : DeploymentCapabilities
  policyProfile : RoutingPolicyProfile
  named : lowercase.lower ref.engineName.1 = lowercase.lower engineName

variable {lowercase : Lowercase}

/-- `RegisteredDeployment(ref, engine, capabilities, policy_profile)`. -/
def RegisteredDeployment.new (ref : DeploymentRef) (engineName : String)
    (capabilities : DeploymentCapabilities) (policyProfile : RoutingPolicyProfile) :
    Except PyError (RegisteredDeployment lowercase) :=
  if h : lowercase.lower ref.engineName.1 = lowercase.lower engineName then
    .ok ⟨ref, engineName, capabilities, policyProfile, h⟩
  else .error (.valueError "Deployment engine_name must match the registered engine name.")

/-- `deployment.ref.deployment_id`. -/
def RegisteredDeployment.id (deployment : RegisteredDeployment lowercase) : String :=
  deployment.ref.deploymentId.1

/-- The key of a deployment in the registry. -/
def RegisteredDeployment.key (deployment : RegisteredDeployment lowercase) : String :=
  lowercase.lower deployment.id

/-- `DeploymentRegistry`: every deployment is stored under its own key. -/
structure DeploymentRegistry (lowercase : Lowercase) where
  deployments : Dict String (RegisteredDeployment lowercase)
  keyed : ∀ entry ∈ deployments.entries, entry.1 = entry.2.key

namespace DeploymentRegistry

/-- `DeploymentRegistry()`. -/
def empty : DeploymentRegistry lowercase where
  deployments := Dict.empty
  keyed := by
    intro entry hentry
    cases hentry

/-- `register`. -/
def register (registry : DeploymentRegistry lowercase)
    (deployment : RegisteredDeployment lowercase) :
    Except PyError (DeploymentRegistry lowercase) :=
  if deployment.key ∈ registry.deployments.keys then
    .error (.valueError ("Deployment '" ++ deployment.id ++ "' is already registered."))
  else
    .ok
      { deployments := registry.deployments.set deployment.key deployment
        keyed := by
          intro entry hentry
          rcases Dict.mem_set.mp hentry with rfl | ⟨-, hold⟩
          · rfl
          · exact registry.keyed entry hold }

/-- `all()`. -/
def all (registry : DeploymentRegistry lowercase) : List (RegisteredDeployment lowercase) :=
  registry.deployments.values

/-- `ids()`: the sorted keys. -/
def ids (registry : DeploymentRegistry lowercase) : List String :=
  Ranking.sortBy id registry.deployments.keys

/-- The keys of the deployments are their lower-case ids. -/
theorem keys_eq (registry : DeploymentRegistry lowercase) :
    registry.deployments.keys = registry.all.map RegisteredDeployment.key := by
  unfold all Dict.keys Dict.values
  rw [List.map_map]
  exact List.map_congr_left registry.keyed

theorem keys_nodup (registry : DeploymentRegistry lowercase) :
    (registry.all.map RegisteredDeployment.key).Nodup := by
  rw [← keys_eq]
  exact registry.deployments.distinct

/-- Registered deployments have distinct ids. -/
theorem ids_nodup (registry : DeploymentRegistry lowercase) :
    (registry.all.map RegisteredDeployment.id).Nodup := by
  have hkeys : ((registry.all.map RegisteredDeployment.id).map lowercase.lower).Nodup := by
    rw [List.map_map]
    exact registry.keys_nodup
  exact List.Nodup.of_map _ hkeys

theorem mem_ids {registry : DeploymentRegistry lowercase} {key : String} :
    key ∈ registry.ids ↔ ∃ deployment ∈ registry.all, deployment.key = key := by
  unfold ids
  rw [Ranking.mem_sortBy, keys_eq, List.mem_map]

end DeploymentRegistry

end Inference
end Ryuk
