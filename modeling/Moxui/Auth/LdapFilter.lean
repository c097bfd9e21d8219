import Moxui.Auth.Ldap
import Moxui.Lib.FilterLiteral

set_option autoImplicit false

namespace Moxui.Auth

open SearchFilter

def usernamePlaceholder : Placeholder where
  head := '{'
  tail := "username\x7d".toList
  plain := List.all_eq_true.mp rfl
  notHex := by decide
  notFrame := by decide

theorem placeholder_spelled : "{username}".toList = usernamePlaceholder.pattern := by
  decide

theorem replaced_filter (username template : String) :
    (Text.replaceAll "{username}" username template).toList =
      usernamePlaceholder.fill username.toList template.toList := by
  rw [Text.replaceAll, String.toList_ofList, placeholder_spelled]
  rfl

section Filter

variable (config : LdapConfig) (username password : String)

theorem rebind_no_search (info : Option LdapUserInfo) (baseDn filter : String) (attrs : List String) :
    ¬ Dialogue.Calls (rebind password info) (.search baseDn filter attrs) := by
  intro sent
  cases info with
  | none => exact sent
  | some info =>
      rcases sent with same | ⟨bound, later⟩
      · cases same
      · cases bound with
        | none => exact later
        | some code =>
            rcases later with same | ⟨unbound, nothing⟩
            · cases same
            · exact nothing

theorem located_filter (baseDn filter : String) (attrs : List String)
    (sent : Dialogue.Calls (locateUser config username) (.search baseDn filter attrs)) :
    filter = Text.replaceAll "{username}" username config.userFilter := by
  unfold locateUser at sent
  split at sent
  · rcases sent with same | ⟨connected, sent⟩
    · cases same
    · cases connected with
      | false => exact absurd sent (Dialogue.calls_done none _)
      | true =>
          rcases sent with same | ⟨bound, sent⟩
          · cases same
          · cases bound with
            | none => exact absurd sent (Dialogue.calls_done none _)
            | some code =>
                rcases sent with same | ⟨found, sent⟩
                · exact (LdapCall.search.inj same).2.1
                · dsimp only at sent
                  split at sent
                  · exact absurd sent (Dialogue.calls_done _ _)
                  · exact absurd sent (Dialogue.calls_done _ _)
  · exact absurd sent (Dialogue.calls_done none _)

theorem searched_filter (baseDn filter : String) (attrs : List String)
    (sent : Dialogue.Calls (verifyLdapCredentials config username password) (.search baseDn filter attrs)) :
    filter = Text.replaceAll "{username}" username config.userFilter := by
  rcases Dialogue.calls_bind _ _ _ sent with located | ⟨info, again⟩
  · exact located_filter config username baseDn filter attrs located
  · exact absurd again (rebind_no_search password info baseDn filter attrs)

-- The template is a filter with the placeholder in a value. What is sent for a username then is
-- that filter with the username itself in its place, unless the username has a character that the
-- syntax of filters reads, or is empty where it is all that a substring item has.
theorem ldap_filter_literal_iff (template : SearchFilter.Filter (List Char)) (baseDn filter : String) (attrs : List String)
    (wellFormed : template.WellFormed) (spelled : template.text = config.userFilter.toList)
    (placed : ∃ value ∈ template.values, usernamePlaceholder.pattern <:+: value)
    (sent : Dialogue.Calls (verifyLdapCredentials config username password) (.search baseDn filter attrs)) :
    usernamePlaceholder.Literal template username.toList filter.toList ↔
      (∀ char ∈ username.toList, char ∉ ['*', '(', ')', backslash, nul]) ∧
        (username = "" → ∀ item ∈ template.items, ¬ usernamePlaceholder.Erases item) := by
  have filled := literal_iff usernamePlaceholder template wellFormed username.toList placed
  rw [spelled, ← replaced_filter, ← searched_filter config username password baseDn filter attrs sent] at filled
  rw [filled]
  apply and_congr
  · apply forall₂_congr
    intro char member
    simp only [normal_iff, List.mem_cons, List.not_mem_nil, or_false, not_or]
    tauto
  · apply imp_congr
    · exact String.toList_eq_nil_iff
    · rfl

end Filter

def defaultFilter : SearchFilter.Filter (List Char) :=
  .list .and (.cons (.item (.simple "objectClass".toList .equal "person".toList))
    (.last (.item (.simple "uid".toList .equal "{username}".toList))))

theorem default_filter : defaultFilter.WellFormed ∧ defaultFilter.text = sampleLdapConfig.userFilter.toList ∧
    ∃ value ∈ defaultFilter.values, usernamePlaceholder.pattern <:+: value := by
  refine ⟨by decide +kernel, by decide, "{username}".toList, ?_, ?_⟩
  · simp [defaultFilter, SearchFilter.Filter.values, SearchFilter.Filter.items, Filters.items, Item.values]
  · simp only [placeholder_spelled, List.infix_rfl]

theorem sample_search (username filter : String)
    (replaced : filter = Text.replaceAll "{username}" username sampleLdapConfig.userFilter) :
    Dialogue.Calls (verifyLdapCredentials sampleLdapConfig username "secret")
      (.search "dc=example,dc=com" filter ["uid", "displayName", "mail"]) := by
  rw [replaced]
  exact Or.inr ⟨true, Or.inr ⟨some 0, Or.inl rfl⟩⟩

theorem alice_searched_literally : usernamePlaceholder.Literal defaultFilter "alice".toList
    "(&(objectClass=person)(uid=alice))".toList := by
  apply (ldap_filter_literal_iff sampleLdapConfig "alice" "secret" defaultFilter "dc=example,dc=com"
    "(&(objectClass=person)(uid=alice))" ["uid", "displayName", "mail"] default_filter.1 default_filter.2.1
    default_filter.2.2 (sample_search "alice" _ (by decide))).mpr
  have plain : "alice".toList.all (fun char => decide (char ∉ ['*', '(', ')', backslash, nul])) = true := by decide
  refine ⟨fun char member => of_decide_eq_true (List.all_eq_true.mp plain char member), ?_⟩
  exact fun empty => absurd empty (by decide)

-- What is sent for an asterisk: whether somebody has a `uid` at all.
def presenceFilter : SearchFilter.Filter (List Char) :=
  .list .and (.cons (.item (.simple "objectClass".toList .equal "person".toList))
    (.last (.item (.present "uid".toList))))

theorem asterisk_finds_everyone :
    Dialogue.Calls (verifyLdapCredentials sampleLdapConfig "*" "secret")
        (.search "dc=example,dc=com" "(&(objectClass=person)(uid=*))" ["uid", "displayName", "mail"]) ∧
      presenceFilter.WellFormed ∧ presenceFilter.text = "(&(objectClass=person)(uid=*))".toList ∧
      ¬ usernamePlaceholder.Literal defaultFilter "*".toList "(&(objectClass=person)(uid=*))".toList := by
  have wellFormed : presenceFilter.WellFormed := by decide +kernel
  have text : presenceFilter.text = "(&(objectClass=person)(uid=*))".toList := by decide
  refine ⟨sample_search "*" _ (by decide), wellFormed, text, ?_⟩
  intro literal
  have same := literal.2 presenceFilter wellFormed text
  simp [presenceFilter, defaultFilter, SearchFilter.Filter.map, Filters.map, Item.map] at same

end Moxui.Auth
