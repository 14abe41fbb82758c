import NovelScript.Proofs.Text.Split
import NovelScript.Url.Basic

/-!
# The parts of an address

`Spelling` is an address on a server by its parts as they are written: a scheme, a login, a host, a
path, a query and a fragment. The signs between the parts tell them apart as long as no part has the
sign that ends it (`Spelling.Formed`), and every text with a scheme, a colon and two slashes can be
taken apart like this (**`exists_spelling`**).

**`parts_of_ofText?`** says what is read from such a text: host, path and fragment are decoded each
on its own, the login is a name or a name and a password, and the query stays as it is written.
-/

namespace NovelScript.Url

/-! ## Taking texts apart -/

/-- A part that may be there, behind the sign that starts it. -/
def behind (sep : UInt8) (part : Option Text) : Text :=
  part.elim [] (sep :: ·)

/-- Two parts that are written behind one separator are written alike only when they are one. -/
theorem behind_inj {sep : UInt8} {part part' : Option Text} :
    behind sep part = behind sep part' ↔ part = part' := by
  cases part <;> cases part' <;> simp [behind]

/-- A byte of a part that is written, other than the separator, is in the part. -/
theorem mem_behind {sep b : UInt8} (h : b ≠ sep) {part : Option Text} :
    b ∈ behind sep part ↔ ∃ x, part = some x ∧ b ∈ x := by
  cases part <;> simp [behind, h]

/-- A text is what stands before the first sign, and what stands behind it if the sign is there. -/
theorem exists_behind (sep : UInt8) (s : Text) : ∃ x part, sep ∉ x ∧ s = x ++ behind sep part := by
  by_cases h : sep ∈ s
  · obtain ⟨x, y, rfl, hx⟩ := List.eq_append_cons_of_mem h
    exact ⟨x, some y, hx, rfl⟩
  · exact ⟨s, none, h, (List.append_nil s).symm⟩

/-- No byte of a text is a separator that is not in it. -/
theorem bne_of_not_mem {sep : UInt8} {x : Text} (h : sep ∉ x) : ∀ c ∈ x, (c != sep) = true := by
  intro c hc
  rw [bne_iff_ne]
  rintro rfl
  exact h hc

/-- A text in front of a separator is split off there. -/
theorem splitBefore_behind {sep : UInt8} {x : Text} (h : sep ∉ x) (part : Option Text) :
    splitBefore sep (x ++ behind sep part) = (x, behind sep part) := by
  have hx := bne_of_not_mem h
  rw [splitBefore, List.takeWhile_append_of_pos hx, List.dropWhile_append_of_pos hx]
  cases part <;> simp [behind]

/-- A text is cut at its last separator, when there is none behind it. A password may have the
separator in it, and a host may not. -/
theorem cutLast?_append_cons {sep : UInt8} {y : Text} (h : sep ∉ y) (x : Text) :
    cutLast? sep (x ++ sep :: y) = some (x, y) := by
  have hy : ∀ c ∈ y.reverse, (c != sep) = true := by
    intro c hc
    exact bne_of_not_mem h c (List.mem_reverse.mp hc)
  have hafter : ((x ++ sep :: y).reverse.takeWhile (· != sep)).reverse = y := by
    rw [List.reverse_append, List.reverse_cons, List.append_assoc,
      List.takeWhile_append_of_pos hy]
    simp
  have hlength : (x ++ sep :: y).length - y.length - 1 = x.length := by
    rw [List.length_append, List.length_cons]
    omega
  rw [cutLast?, if_pos (by simp), hafter]
  dsimp only
  rw [hlength, List.take_left]

/-- Without a separator there is no last one to cut at. -/
theorem cutLast?_of_not_mem {sep : UInt8} {s : Text} (h : sep ∉ s) : cutLast? sep s = none := by
  rw [cutLast?, if_neg (by simpa using h)]

/-! ## Parts as they are written -/

/-- A login as it is written: a name, and a password if there is one. -/
structure Login where
  /-- The name. -/
  name : Text
  /-- The password. -/
  password : Option Text
deriving DecidableEq

/-- The login with the sign between its parts. -/
def Login.text (l : Login) : Text :=
  l.name ++ behind 0x3A l.password

/-- An address on a server by its parts. -/
structure Spelling where
  /-- The scheme. -/
  scheme : Text
  /-- The login, if there is one. -/
  login : Option Login := none
  /-- The host with its service number. -/
  host : Text
  /-- The path. -/
  path : Text := []
  /-- The query, if there is one. -/
  query : Option Text := none
  /-- The fragment, if there is one. -/
  fragment : Option Text := none
deriving DecidableEq

namespace Spelling

/-- The login with the sign behind it. -/
def loginText (a : Spelling) : Text :=
  a.login.elim [] fun l => l.text ++ [0x40]

/-- The address without its query and its fragment. -/
def front (a : Spelling) : Text :=
  a.scheme ++ 0x3A :: (Text.lit "//" ++ (a.loginText ++ a.host ++ a.path))

/-- The address. -/
def text (a : Spelling) : Text :=
  a.front ++ behind 0x3F a.query ++ behind Text.hash a.fragment

/-- Has no part of the address a sign that ends it? -/
structure Formed (a : Spelling) : Prop where
  /-- The scheme is one of those that name a database server. -/
  scheme : a.scheme = Text.lit "postgres" ∨ a.scheme = Text.lit "postgresql"
  /-- The login ends neither before the host nor, for the name, before the password. -/
  login : ∀ l, a.login = some l → 0x3A ∉ l.name ∧ 0x2F ∉ l.text ∧ 0x3F ∉ l.text ∧ Text.hash ∉ l.text
  /-- The host has no sign of a login or of what comes after it. -/
  host : 0x40 ∉ a.host ∧ 0x2F ∉ a.host ∧ 0x3F ∉ a.host ∧ Text.hash ∉ a.host
  /-- The path starts with a slash and ends before the query. -/
  path : (∃ part, a.path = behind 0x2F part) ∧ 0x3F ∉ a.path ∧ Text.hash ∉ a.path
  /-- The query ends before the fragment. -/
  query : ∀ q, a.query = some q → Text.hash ∉ q

/-- What stands between the slashes and the path is a login and a host. -/
theorem exists_login (authority : Text) : ∃ (login : Option Login) (host : Text),
    authority = login.elim [] (fun l => l.text ++ [0x40]) ++ host ∧ 0x40 ∉ host ∧
      ∀ l, login = some l → 0x3A ∉ l.name := by
  by_cases h : 0x40 ∈ authority
  · obtain ⟨y, x, hauthority, hy⟩ := List.eq_append_cons_of_mem (List.mem_reverse.mpr h)
    obtain ⟨name, password, hname, hlogin⟩ := exists_behind 0x3A x.reverse
    refine ⟨some ⟨name, password⟩, y.reverse, ?_, by simpa using hy, ?_⟩
    · rw [← List.reverse_reverse authority, hauthority, Option.elim, Login.text, ← hlogin]
      simp
    · rintro l ⟨rfl⟩
      exact hname
  · exact ⟨none, authority, rfl, h, by simp⟩

/-- **Every text that starts like the address of a database server** is one by its parts. None of
the parts is unique by itself, but put together they are the text. -/
theorem exists_spelling {scheme : Text}
    (hscheme : scheme = Text.lit "postgres" ∨ scheme = Text.lit "postgresql") (rest : Text) :
    ∃ a : Spelling, a.Formed ∧ a.text = scheme ++ 0x3A :: (Text.lit "//" ++ rest) := by
  obtain ⟨main, fragment, hmain, rfl⟩ := exists_behind Text.hash rest
  obtain ⟨hierarchy, query, hhierarchy, rfl⟩ := exists_behind 0x3F main
  obtain ⟨authority, part, hauthority, rfl⟩ := exists_behind 0x2F hierarchy
  obtain ⟨login, host, rfl, hhost, hname⟩ := exists_login authority
  refine ⟨⟨scheme, login, host, behind 0x2F part, query, fragment⟩, ?_, ?_⟩
  · simp only [List.mem_append, not_or] at hmain hhierarchy hauthority
    refine ⟨hscheme, ?_, ⟨hhost, hauthority.2, hhierarchy.1.2, hmain.1.1.2⟩,
      ⟨⟨part, rfl⟩, hhierarchy.2, hmain.1.2⟩, ?_⟩
    · rintro l rfl
      simp only [Option.elim, List.mem_append, not_or] at hmain hhierarchy hauthority
      exact ⟨hname l rfl, hauthority.1.1, hhierarchy.1.1.1, hmain.1.1.1.1⟩
    · rintro q rfl
      intro hq
      exact hmain.2 (List.mem_cons_of_mem _ hq)
  · simp [text, front, loginText]

/-! ## What is read -/

/-- The login that is read. -/
def readLogin? (login : Option Login) : Option (Option User) :=
  match login with
  | none => some none
  | some l => (userOf? l.text).map some

variable {a : Spelling}

/-- The authority of a formed address is read as its login and its host. -/
theorem Formed.authorityOf? (ha : a.Formed) : Url.authorityOf? (a.loginText ++ a.host) =
    (hostOf? a.host).bind fun host => (readLogin? a.login).map fun user => (user, host) := by
  unfold loginText
  cases a.login with
  | none =>
    rw [Option.elim, List.nil_append, Url.authorityOf?, cutLast?_of_not_mem ha.host.1]
    cases hostOf? a.host <;> rfl
  | some l =>
    rw [Option.elim, List.append_assoc, List.singleton_append, Url.authorityOf?,
      cutLast?_append_cons ha.host.1, readLogin?]
    dsimp only
    cases hostOf? a.host with
    | none => rfl
    | some host => cases userOf? l.text <;> rfl

/-- The signs of the query and the fragment are not in what stands before them. So the first of
these signs is the one that was written as a separator. -/
theorem Formed.not_mem_front (ha : a.Formed) {b : UInt8} (hb : b = 0x3F ∨ b = Text.hash) :
    b ∉ a.front := by
  have hscheme : b ∉ a.scheme := by
    rcases ha.scheme with h | h <;> rcases hb with rfl | rfl <;> rw [h] <;> decide
  have hsigns : b ≠ 0x3A ∧ b ∉ Text.lit "//" ∧ b ≠ 0x40 := by
    rcases hb with rfl | rfl <;> decide
  have hlogin : b ∉ a.loginText := by
    unfold loginText
    cases hl : a.login with
    | none => simp
    | some l =>
      obtain ⟨-, -, hquery, hfragment⟩ := ha.login l hl
      rcases hb with rfl | rfl
      · simpa using hquery
      · simpa [hsigns.2.2] using hfragment
  have hrest : b ∉ a.host ∧ b ∉ a.path := by
    rcases hb with rfl | rfl
    · exact ⟨ha.host.2.2.1, ha.path.2.1⟩
    · exact ⟨ha.host.2.2.2, ha.path.2.2⟩
  simp [front, hscheme, hsigns, hlogin, hrest]

/-- The authority ends before the path. -/
theorem Formed.not_mem_authority (ha : a.Formed) : 0x2F ∉ a.loginText ++ a.host := by
  have hlogin : 0x2F ∉ a.loginText := by
    unfold loginText
    cases hl : a.login with
    | none => simp
    | some l => simpa using (ha.login l hl).2.1
  simp [hlogin, ha.host.2.1]

/-- The scheme of a formed address is read off its front. -/
theorem Formed.takeScheme? (ha : a.Formed) (r : Text) :
    Url.takeScheme? (a.scheme ++ 0x3A :: r) = some (a.scheme, r) := by
  have hall : ∀ c ∈ a.scheme, isSchemeByte c = true := by
    rw [← List.all_eq_true]
    rcases ha.scheme with h | h <;> rw [h] <;> decide
  have hfirst : ∃ c s, a.scheme = c :: s ∧ Text.isLetter c = true := by
    rcases ha.scheme with h | h <;> rw [h]
    · exact ⟨_, _, rfl, by decide⟩
    · exact ⟨_, _, rfl, by decide⟩
  have hcolon : isSchemeByte 0x3A = false := by decide
  obtain ⟨c, s, hs, hc⟩ := hfirst
  rw [Url.takeScheme?, List.takeWhile_append_of_pos hall, List.dropWhile_append_of_pos hall,
    List.takeWhile_cons, List.dropWhile_cons, hcolon]
  simp [hs, hc]

/-- What stands behind the scheme of a formed address is read as login, host and path. The two
slashes tell that there is an authority, and the next slash where it ends. -/
theorem Formed.withHierarchy? (ha : a.Formed) {u v : Url} (hscheme : u.scheme = a.scheme)
    (h : u.withHierarchy? (Text.lit "//" ++ (a.loginText ++ a.host ++ a.path)) = some v) :
    ∃ user host path, readLogin? a.login = some user ∧ hostOf? a.host = some host ∧
      decode? .path a.path = some path ∧ v = { u with user, host, rawPath := a.path, path } := by
  have hne : u.scheme.isEmpty = false := by
    rw [hscheme]
    rcases ha.scheme with h | h <;> rw [h] <;> decide
  obtain ⟨part, hpath⟩ := ha.path.1
  have hslashes : Text.lit "//" = [0x2F, 0x2F] := by decide
  have hsplit : splitBefore 0x2F (a.loginText ++ a.host ++ a.path) =
      (a.loginText ++ a.host, a.path) := by
    rw [hpath]
    exact splitBefore_behind ha.not_mem_authority part
  rw [Url.withHierarchy?, hne, hslashes] at h
  simp only [List.cons_append, List.nil_append, List.head?_cons, bne_self_eq_false, Bool.false_and,
    Bool.false_eq_true, if_false, Text.startsWith, List.isPrefixOf, BEq.rfl, Bool.not_false,
    Bool.true_or, Bool.true_and, if_true, List.drop_succ_cons, List.drop_zero, hsplit,
    ha.authorityOf?] at h
  obtain ⟨⟨user, host⟩, hauthority, hrest⟩ := Option.bind_eq_some_iff.mp h
  obtain ⟨host', hhost, hlogin⟩ := Option.bind_eq_some_iff.mp hauthority
  obtain ⟨user', huser, hpair⟩ := Option.map_eq_some_iff.mp hlogin
  cases hpair
  obtain ⟨path, hdecoded, rfl⟩ := Option.map_eq_some_iff.mp hrest
  exact ⟨user, host, path, huser, hhost, hdecoded, rfl⟩

/-- Everything in front of the fragment of a formed address is read part by part. None of the parts
can hold the separator behind it, so each is found where it was written. -/
theorem Formed.ofMain? (ha : a.Formed) {v : Url}
    (h : Url.ofMain? (a.front ++ behind 0x3F a.query) = some v) :
    ∃ user host path, readLogin? a.login = some user ∧ hostOf? a.host = some host ∧
      decode? .path a.path = some path ∧
      v = { scheme := a.scheme, user, host, rawPath := a.path, path, query := a.query } := by
  have hlower : a.scheme.map Text.lowerByte = a.scheme := by
    rcases ha.scheme with h | h <;> rw [h] <;> decide
  have hquery : (if (behind 0x3F a.query).isEmpty then none
      else some ((behind 0x3F a.query).drop 1)) = a.query := by
    cases a.query <;> rfl
  have hsplit : splitBefore 0x3F (Text.lit "//" ++ (a.loginText ++ a.host ++ a.path) ++
        behind 0x3F a.query) =
      (Text.lit "//" ++ (a.loginText ++ a.host ++ a.path), behind 0x3F a.query) := by
    apply splitBefore_behind
    intro hmem
    apply ha.not_mem_front (.inl rfl)
    rw [front]
    exact List.mem_append_right _ (List.mem_cons_of_mem _ hmem)
  rw [Url.ofMain?] at h
  split at h
  · cases h
  · split at h
    · rename_i hstar
      have hcolon : 0x3A ∈ a.front ++ behind 0x3F a.query := by simp [front]
      rw [eq_of_beq hstar] at hcolon
      exact absurd hcolon (by decide)
    · rw [front, List.append_assoc, List.cons_append, ha.takeScheme?] at h
      simp only [Option.bind_eq_bind, Option.bind_some, hsplit, hquery, hlower] at h
      exact ha.withHierarchy? rfl h

/-- **What is read from an address by its parts.** Host, path and fragment are decoded each on its
own, the login is a name or a name and a password, and the query stays as it is written. -/
theorem parts_of_ofText? (ha : a.Formed) {u : Url} (h : Url.ofText? a.text = some u) :
    ∃ user host path fragment, readLogin? a.login = some user ∧ hostOf? a.host = some host ∧
      decode? .path a.path = some path ∧ decode? .fragment (a.fragment.getD []) = some fragment ∧
      u = { scheme := a.scheme, user, host, rawPath := a.path, path, query := a.query,
            rawFragment := a.fragment.getD [], fragment } := by
  have hmain : Text.hash ∉ a.front ++ behind 0x3F a.query := by
    have hsign : Text.hash ≠ 0x3F := by decide
    rw [List.mem_append, mem_behind hsign, not_or]
    refine ⟨ha.not_mem_front (.inr rfl), ?_⟩
    rintro ⟨q, hq, hmem⟩
    exact ha.query q hq hmem
  have hdrop : (behind Text.hash a.fragment).drop 1 = a.fragment.getD [] := by
    cases a.fragment <;> rfl
  rw [Url.ofText?, text, splitBefore_behind hmain] at h
  simp only [hdrop] at h
  obtain ⟨v, hv, hrest⟩ := Option.bind_eq_some_iff.mp h
  obtain ⟨fragment, hfragment, hu⟩ := Option.bind_eq_some_iff.mp hrest
  obtain ⟨user, host, path, huser, hhost, hpath, rfl⟩ := ha.ofMain? hv
  cases hu
  exact ⟨user, host, path, fragment, huser, hhost, hpath, hfragment, rfl⟩

/-! ## What is written without the password -/

/-- The user with the password hidden, if there is one. -/
def hidden (user : User) : User :=
  { user with password := user.password.map fun _ => hiddenPassword }

/-- To redact an address is to hide the password of its login. The query is not looked at. -/
theorem redact_eq (u : Url) : u.redact = { u with user := u.user.map hidden } := rfl

/-- The address without what may be secret in it: with an empty password if there is one, and
without a query. -/
def bare (a : Spelling) : Spelling :=
  { a with login := a.login.map fun l => ⟨l.name, l.password.map fun _ => []⟩, query := none }

/-- The name that is read comes from the name alone, and a password is read when one is written. So
once the password is hidden nothing is left of it. -/
theorem hidden_of_userOf? {l : Login} (hname : 0x3A ∉ l.name) {user : User}
    (h : userOf? l.text = some user) :
    ∃ name, decode? .user l.name = some name ∧
      hidden user = ⟨name, l.password.map fun _ => hiddenPassword⟩ := by
  rw [userOf?] at h
  split at h
  · cases h
  · cases hp : l.password with
    | none =>
      have htext : l.text = l.name := by
        rw [Login.text, hp]
        exact List.append_nil l.name
      rw [htext, Text.cut_of_not_mem hname] at h
      obtain ⟨name, hdecoded, rfl⟩ := Option.map_eq_some_iff.mp h
      exact ⟨name, hdecoded, rfl⟩
    | some password =>
      have htext : l.text = l.name ++ 0x3A :: password := by
        rw [Login.text, hp]
        rfl
      rw [htext, Text.cut_append_cons hname] at h
      obtain ⟨name, hdecoded, hrest⟩ := Option.bind_eq_some_iff.mp h
      obtain ⟨secret, -, huser⟩ := Option.bind_eq_some_iff.mp hrest
      cases huser
      exact ⟨name, hdecoded, rfl⟩

/-- Logins that differ in their passwords are read as users that differ in them, and these look
alike once their passwords are hidden. -/
theorem hidden_of_readLogin? {login login' : Option Login}
    (hname : ∀ l, login = some l → 0x3A ∉ l.name)
    (hbare : login.map (fun l => Login.mk l.name (l.password.map fun _ => [])) =
      login'.map (fun l => Login.mk l.name (l.password.map fun _ => [])))
    {user user' : Option User} (h : readLogin? login = some user)
    (h' : readLogin? login' = some user') : user.map hidden = user'.map hidden := by
  cases login with
  | none =>
    cases login' with
    | none =>
      cases h
      cases h'
      rfl
    | some l' => cases hbare
  | some l =>
    cases login' with
    | none => cases hbare
    | some l' =>
      simp only [Option.map_some, Option.some.injEq, Login.mk.injEq] at hbare
      obtain ⟨hnames, hpasswords⟩ := hbare
      obtain ⟨u, hu, rfl⟩ := Option.map_eq_some_iff.mp h
      obtain ⟨u', hu', rfl⟩ := Option.map_eq_some_iff.mp h'
      obtain ⟨name, hn, hh⟩ := hidden_of_userOf? (hname l rfl) hu
      obtain ⟨name', hn', hh'⟩ := hidden_of_userOf? (hnames ▸ hname l rfl) hu'
      have hsame : name = name' := by
        rw [hnames, hn'] at hn
        exact (Option.some.inj hn).symm
      have hhide := congrArg (Option.map fun _ => hiddenPassword) hpasswords
      rw [Option.map_map, Option.map_map] at hhide
      rw [Option.map_some, Option.map_some, hh, hh', hsame]
      exact congrArg (fun p => some (User.mk name' p)) hhide

/-- **Addresses that differ in the password and the query** are read as addresses that, with the
password hidden, differ in the query alone. -/
theorem redact_eq_of_bare {b : Spelling} (ha : a.Formed) (hb : b.Formed) (hbare : a.bare = b.bare)
    {u v : Url} (hu : Url.ofText? a.text = some u) (hv : Url.ofText? b.text = some v) :
    u.query = a.query ∧ v.query = b.query ∧ u.redact = { v.redact with query := u.query } := by
  obtain ⟨user, host, path, fragment, huser, hhost, hpath, hfragment, rfl⟩ := parts_of_ofText? ha hu
  obtain ⟨user', host', path', fragment', huser', hhost', hpath', hfragment', rfl⟩ :=
    parts_of_ofText? hb hv
  simp only [bare, Spelling.mk.injEq, true_and] at hbare
  obtain ⟨hscheme, hlogin, hhosts, hpaths, hfragments⟩ := hbare
  rw [hhosts, hhost'] at hhost
  rw [hpaths, hpath'] at hpath
  rw [hfragments, hfragment'] at hfragment
  cases hhost
  cases hpath
  cases hfragment
  have hhidden := hidden_of_readLogin? (fun l hl => (ha.login l hl).1) hlogin huser huser'
  refine ⟨rfl, rfl, ?_⟩
  simp only [redact_eq, hhidden, hscheme, hpaths, hfragments]

end Spelling

/-- An address is written with its query as it is. -/
theorem toText_query (u : Url) :
    ∃ before after, ∀ query, { u with query }.toText = before ++ behind 0x3F query ++ after := by
  refine ⟨(if u.scheme.isEmpty then [] else u.scheme ++ [0x3A]) ++ u.hierarchyText,
    if u.fragment.isEmpty then [] else Text.hash :: spelled .fragment u.rawFragment u.fragment, ?_⟩
  intro query
  cases query <;> rfl

end NovelScript.Url
