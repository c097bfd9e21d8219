import Moxui.Proxmox.Transport

set_option autoImplicit false

namespace Moxui.Proxmox

open Text (trimStartMatches trimEndMatches)

def SameBase (url path : String) : Prop :=
  ∃ base, (loginRequest url).url = base ++ "/api2/json/" ++ "access/ticket" ∧
    buildUrl url path = base ++ "/api2/json/" ++ trimStartMatches '/' path

structure OneApiRoot (url other path otherPath : String) : Prop where
  base : SameBase url path
  otherBase : SameBase other otherPath
  login : (loginRequest url).url = (loginRequest other).url
  built : buildUrl url path = buildUrl other otherPath

def EndsInSlash (url : String) : Prop :=
  url.toList.getLast? = some '/'

instance (url : String) : Decidable (EndsInSlash url) :=
  inferInstanceAs (Decidable (url.toList.getLast? = some '/'))

theorem trim_end_eq_self_iff (url : String) : trimEndMatches '/' url = url ↔ ¬ EndsInSlash url := by
  have spelled : trimEndMatches '/' url = url ↔ url.toList.rdropWhile (· == '/') = url.toList := by
    rw [trimEndMatches, ← String.toList_inj, String.toList_ofList]
  rw [spelled, List.rdropWhile_eq_self_iff, EndsInSlash]
  by_cases blank : url.toList = []
  · simp [blank]
  · simp [blank, List.getLast?_eq_some_getLast blank]

theorem login_url_injective (url other : String) (same : (loginRequest url).url = (loginRequest other).url) :
    url = other := by
  simpa [loginRequest] using same

theorem build_url_slashes (url other path otherPath : String) (sameUrl : trimEndMatches '/' other = trimEndMatches '/' url)
    (samePath : trimStartMatches '/' otherPath = trimStartMatches '/' path) :
    buildUrl url path = buildUrl other otherPath := by
  rw [buildUrl, buildUrl, sameUrl, samePath]

theorem same_base_iff (url path : String) : SameBase url path ↔ ¬ EndsInSlash url := by
  rw [← trim_end_eq_self_iff]
  constructor
  · intro ⟨base, login, built⟩
    have same : url = base := login_url_injective url base (by rw [login, String.append_assoc]; rfl)
    rw [buildUrl, String.append_left_inj, String.append_left_inj] at built
    rw [built, same]
  · intro bare
    exact ⟨url, by simp [loginRequest, String.append_assoc], by rw [buildUrl, bare]⟩

-- A slash at the end goes into the address of the login only.
theorem one_api_root_iff (url other path otherPath : String) (sameUrl : trimEndMatches '/' other = trimEndMatches '/' url)
    (samePath : trimStartMatches '/' otherPath = trimStartMatches '/' path) :
    OneApiRoot url other path otherPath ↔ ¬ EndsInSlash url ∧ ¬ EndsInSlash other := by
  constructor
  · intro root
    exact ⟨(same_base_iff url path).mp root.base, (same_base_iff other otherPath).mp root.otherBase⟩
  · intro ⟨bare, otherBare⟩
    refine ⟨(same_base_iff url path).mpr bare, (same_base_iff other otherPath).mpr otherBare, ?_,
      build_url_slashes url other path otherPath sameUrl samePath⟩
    rw [← (trim_end_eq_self_iff url).mpr bare, ← sameUrl, (trim_end_eq_self_iff other).mpr otherBare]

theorem one_api_root_iff_leading_slash : OneApiRoot "https://test.local:8006" "https://test.local:8006" "version" "/version" :=
  (one_api_root_iff "https://test.local:8006" "https://test.local:8006" "version" "/version" rfl (by decide)).mpr
    (by decide)

theorem trailing_slash_other_root :
    trimEndMatches '/' "https://test.local:8006/" = trimEndMatches '/' "https://test.local:8006" ∧
      (loginRequest "https://test.local:8006/").url = "https://test.local:8006//api2/json/access/ticket" ∧
      buildUrl "https://test.local:8006/" "access/ticket" = "https://test.local:8006/api2/json/access/ticket" ∧
      ¬ OneApiRoot "https://test.local:8006/" "https://test.local:8006" "version" "version" := by
  refine ⟨by decide, by decide, by decide, ?_⟩
  intro root
  exact absurd root.login (by decide)

end Moxui.Proxmox
