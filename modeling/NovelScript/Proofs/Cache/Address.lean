import NovelScript.Cache.Location
import NovelScript.Proofs.Url.Parts

/-!
# What is shown of the address of a server

The address of a server is shown with its password hidden, for it gets into the log and into what is
told about a cache. What is hidden is the password of the login only. A query is shown as it is
written, and a server takes a password from there as well.

* **`shown_address_depends_on_query`**: of two addresses that differ in their passwords and their
  queries at most, the same is shown exactly when their queries are the same.
* So a password in the query is seen (`shownAddress_of_password_in_query`).
-/

namespace NovelScript.Cache

open Url (Spelling behind)

/-- What is shown of an address that can be read is the address again, with its password replaced.
-/
theorem shownAddress_of_ofText? {address : Text} {u : Url} (h : Url.ofText? address = some u) :
    shownAddress address = u.redact.toText := by
  rw [shownAddress, h]

/-- The address of a server starts with a scheme of database servers and two slashes. Any other text
is taken for the path of a file. -/
theorem exists_spelling_of_server {s address : Text} (h : Location.ofText s = .server address) :
    ∃ a : Spelling, a.Formed ∧ a.text = address := by
  have hplain : Text.lit "postgres://" = Text.lit "postgres" ++ 0x3A :: Text.lit "//" := by decide
  have hlong : Text.lit "postgresql://" = Text.lit "postgresql" ++ 0x3A :: Text.lit "//" := by decide
  unfold Location.ofText at h
  dsimp only at h
  split at h
  · rename_i hstart
    cases h
    rw [Bool.or_eq_true, Text.startsWith_iff, Text.startsWith_iff, hplain, hlong] at hstart
    rcases hstart with ⟨rest, hrest⟩ | ⟨rest, hrest⟩
    · rw [← hrest, List.append_assoc]
      exact Spelling.exists_spelling (.inl rfl) rest
    · rw [← hrest, List.append_assoc]
      exact Spelling.exists_spelling (.inr rfl) rest
  · split at h <;> cases h

/-- **What is shown depends on the query, and not on the password of the login.** Take two addresses
of servers that are read without a fault and differ at most in the password of the login, which both
of them have or neither, and in the query. The same is shown of them exactly when their queries are
the same. Every address of a server is written by its parts like this. -/
theorem shown_address_depends_on_query {a b : Spelling} (ha : a.Formed) (hb : b.Formed)
    (hbare : a.bare = b.bare) (hreada : (Url.ofText? a.text).isSome = true)
    (hreadb : (Url.ofText? b.text).isSome = true) :
    (shownAddress a.text = shownAddress b.text ↔ a.query = b.query) ∧
      ∀ s address, Location.ofText s = .server address →
        ∃ c : Spelling, c.Formed ∧ c.text = address := by
  obtain ⟨u, hu⟩ := Option.isSome_iff_exists.mp hreada
  obtain ⟨v, hv⟩ := Option.isSome_iff_exists.mp hreadb
  obtain ⟨hqueryu, hqueryv, hredact⟩ := Spelling.redact_eq_of_bare ha hb hbare hu hv
  obtain ⟨before, after, htext⟩ := Url.toText_query v.redact
  refine ⟨?_, fun s address => exists_spelling_of_server⟩
  have hsame : v.redact.toText = before ++ behind 0x3F b.query ++ after := by
    rw [← hqueryv]
    exact htext v.query
  rw [shownAddress_of_ofText? hu, shownAddress_of_ofText? hv, hredact, htext, hqueryu, hsame,
    List.append_cancel_right_eq, List.append_cancel_left_eq, Url.behind_inj]

/-- An address with this password in its login. -/
def addressWith (password : Text) : Spelling where
  scheme := Text.lit "postgresql"
  login := some ⟨Text.lit "u%20v", some password⟩
  host := Text.lit "db:5432"
  path := Text.lit "/scripts"
  query := some (Text.lit "sslmode=disable")

/-- The example's address is one that addresses are made of: no part of it has a separator of a
later part in it. -/
theorem formed_addressWith (password : Text)
    (h : 0x2F ∉ password ∧ 0x3F ∉ password ∧ Text.hash ∉ password) :
    (addressWith password).Formed where
  scheme := .inr rfl
  login := by
    rintro l ⟨rfl⟩
    have hname : 0x3A ∉ Text.lit "u%20v" ∧ 0x2F ∉ Text.lit "u%20v" ∧ 0x3F ∉ Text.lit "u%20v" ∧
        Text.hash ∉ Text.lit "u%20v" := by decide
    have hcolon : Text.hash ≠ 0x3A := by decide
    simp [Url.Login.text, behind, hname, h, hcolon]
  host := by
    simp only [addressWith]
    decide
  path := by
    refine ⟨⟨some (Text.lit "scripts"), rfl⟩, ?_⟩
    simp only [addressWith]
    decide
  query := by
    rintro q ⟨rfl⟩
    decide

/-- Two addresses that differ in their passwords alone are shown alike. -/
theorem shown_address_depends_on_query_of_login :
    shownAddress (addressWith (Text.lit "p%40ss")).text =
      shownAddress (addressWith (Text.lit "other:one@")).text := by
  have ha := formed_addressWith (Text.lit "p%40ss") (by decide)
  have hb := formed_addressWith (Text.lit "other:one@") (by decide)
  exact (shown_address_depends_on_query ha hb rfl (by decide) (by decide)).1.mpr rfl

/-- **A password in the query is shown.** Two addresses that differ in it alone are shown as they
are. -/
theorem shownAddress_of_password_in_query :
    (Url.ofText? (Text.lit "postgres://h/a?password=secret")).isSome = true ∧
      (Url.ofText? (Text.lit "postgres://h/a?password=other")).isSome = true ∧
      shownAddress (Text.lit "postgres://h/a?password=secret") =
        Text.lit "postgres://h/a?password=secret" ∧
      shownAddress (Text.lit "postgres://h/a?password=other") =
        Text.lit "postgres://h/a?password=other" := by
  decide

end NovelScript.Cache
