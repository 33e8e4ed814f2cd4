import DeviceConsole.Proofs.Url.Path

/-! What a backend has under the base of its clients. Whatever the base is, a request for a resource
goes to a path that ends in the resource. -/
namespace DeviceConsole.Client

open Url (IsPath IsSegment)

/-- What a backend has under its base. -/
inductive Resource where
  | devices
  | provisioning
  | credentials
  | credential (id : Int64)
  | discoveries
  | discovery (id : Int64)
  | discoveryRun (id : Int64)
  | query

def Resource.path : Resource → String
  | devices => "devices"
  | provisioning => "devices/update-provisioning"
  | credentials => "credential-profiles"
  | credential id => "credential-profiles/" ++ toString id
  | discoveries => "discovery-profiles"
  | discovery id => "discovery-profiles/" ++ toString id
  | discoveryRun id => "discovery-profiles/" ++ toString id ++ "/run-discovery"
  | query => "query"

theorem Resource.isPath (r : Resource) : IsPath ('/' :: r.path.toList) := by
  have hname (s : String) (h : IsSegment s.toList) : IsPath ('/' :: s.toList) := h.isPath
  have hcredentials := hname "credential-profiles" (by decide +kernel)
  have hdiscoveries := hname "discovery-profiles" (by decide +kernel)
  cases r with
  | devices => exact hname "devices" (by decide +kernel)
  | credentials => exact hcredentials
  | discoveries => exact hdiscoveries
  | query => exact hname "query" (by decide +kernel)
  | provisioning =>
    exact ⟨["devices".toList, "update-provisioning".toList], rfl, by decide +kernel⟩
  | credential id =>
    -- Stated anew, because simp would evaluate the texts to unfold path at an unknown number.
    change IsPath ('/' :: ("credential-profiles/" ++ toString id).toList)
    simpa using hcredentials.append (Url.isSegment_int64 id).isPath
  | discovery id =>
    change IsPath ('/' :: ("discovery-profiles/" ++ toString id).toList)
    simpa using hdiscoveries.append (Url.isSegment_int64 id).isPath
  | discoveryRun id =>
    have hrun := hname "run-discovery" (by decide +kernel)
    change IsPath ('/' :: ("discovery-profiles/" ++ toString id ++ "/run-discovery").toList)
    simpa using (hdiscoveries.append (Url.isSegment_int64 id).isPath).append hrun

/-- Behind any base a resource is the end of the path. -/
theorem Resource.suffix_endpoint (c : Client) (r : Resource) :
    ('/' :: r.path.toList) <:+ (c.endpoint r.path).path.toList := by
  obtain ⟨_, h⟩ := r.isPath.isReference
  exact c.endpoint_path h

theorem asksFor_resource (c : Client) (method : Method) (r : Resource) (body : Option Json) :
    c.AsksFor { method, url := c.endpoint r.path, body } method r.path :=
  ⟨rfl, rfl, r.suffix_endpoint c⟩

end DeviceConsole.Client
