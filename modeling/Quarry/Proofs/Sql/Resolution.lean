import Quarry.Client.Basic
import Quarry.Proofs.Url.Scheme

/-!
# Which dialect is found

A dialect is found under a name, and the name that decides is the scheme of a url up to a plus
sign or a text without the blanks around it. Whatever reads the schemes of urls, so long as it reads
them as `Url.ReadsSchemes` says, a url and its scheme name the same dialect, nothing behind the
scheme counts, and neither does the case of letters. What is not one of the known names finds
nothing, and every failure is an error of compiling.
-/

namespace Quarry

open Url (ReadsSchemes isSchemeChar)
open Text (asciiLower)

theorem containsChars_iff {part cs : List Char} : containsChars part cs = true ↔ part <:+: cs := by
  induction cs with
  | nil => rw [containsChars, List.isEmpty_iff, List.infix_nil]
  | cons c cs ih =>
    rw [containsChars, Bool.or_eq_true, List.isPrefixOf_iff_prefix, ih, List.infix_cons_iff]

theorem isUrlLike_iff {s : String} : isUrlLike s = true ↔ "://".toList <:+: s.toList :=
  containsChars_iff

theorem isUrlLike_append (name rest : String) : isUrlLike (name ++ "://" ++ rest) = true := by
  rw [isUrlLike_iff, String.toList_append, String.toList_append]
  exact ⟨name.toList, rest.toList, rfl⟩

section

variable {name : String} (hname : ∀ c ∈ name.toList, isSchemeChar c = true)
include hname

theorem isUrlLike_of_isSchemeChar : isUrlLike name = false := by
  rw [← Bool.not_eq_true, isUrlLike_iff]
  intro hpart
  have hcolon : isSchemeChar ':' = true := hname ':' (hpart.mem (by simp))
  exact absurd hcolon (by decide)

theorem trim_of_isSchemeChar : Text.trim name = name := by
  have hblank : ∀ c ∈ name.toList, Text.isBlank c = false := fun c hc =>
    Url.isBlank_of_isSchemeChar (hname c hc)
  have hreverse : ∀ c ∈ name.toList.reverse, Text.isBlank c = false := fun c hc =>
    hblank c (List.mem_reverse.1 hc)
  rw [Text.trim, Text.trimChars, Url.dropWhile_of_neg hblank, Text.trimEndChars,
    Url.dropWhile_of_neg hreverse, List.reverse_reverse, String.ofList_toList]

theorem isSchemeChar_of_mem_beforePlus :
    ∀ c ∈ (beforePlus name).toList, isSchemeChar c = true := by
  intro c hc
  rw [beforePlus, String.toList_ofList] at hc
  exact hname c (List.takeWhile_subset _ hc)

end

/-- A plus sign has no other form in lower case, so it is the same to cut before or after. -/
theorem beforePlus_asciiLower (name : String) :
    beforePlus (asciiLower name) = asciiLower (beforePlus name) := by
  have hplus : (fun c : Char => decide (c ≠ '+')) ∘ Char.toLower = fun c => decide (c ≠ '+') := by
    funext c
    simp [Url.toLower_eq_plus_iff]
  rw [beforePlus, beforePlus, asciiLower, asciiLower, String.toList_ofList, String.toList_ofList,
    List.takeWhile_map, hplus]

namespace Dialect

def names : List (String × Dialect) :=
  [("postgres", postgres), ("postgresql", postgres), ("mysql", mysql), ("mariadb", mysql),
    ("sqlserver", sqlserver), ("mssql", sqlserver), ("generic", generic), ("h2", generic),
    ("sqlite", generic)]

theorem ofName?_eq_some_iff {name : String} {d : Dialect} :
    ofName? name = some d ↔ (name, d) ∈ names := by
  rw [ofName?]
  simp only [names, List.mem_cons, List.not_mem_nil, Prod.mk.injEq, or_false]
  split_ifs with hpostgres hmysql hserver hgeneric
  · rcases hpostgres with rfl | rfl <;> simp [eq_comm]
  · rcases hmysql with rfl | rfl <;> simp [eq_comm]
  · rcases hserver with rfl | rfl <;> simp [eq_comm]
  · rcases hgeneric with rfl | rfl | rfl <;> simp [eq_comm]
  · simp only [not_or] at hpostgres hmysql hserver hgeneric
    simp [hpostgres, hmysql, hserver, hgeneric]

/-- The dialect that is found for a text, if one is. -/
def find? (parse : String → Except UrlError String) (s : String) : Option Dialect :=
  (resolveBy parse s).toOption

section

variable {parse : String → Except UrlError String} {s : String}

theorem find?_of_decider {name : String} (h : deciderBy parse s = .ok name) :
    find? parse s = ofName? (asciiLower name) := by
  simp only [find?, resolveBy, h]
  cases ofName? (asciiLower name) <;> rfl

theorem find?_of_refused {e : UrlError} (h : deciderBy parse s = .error e) :
    find? parse s = none := by
  simp only [find?, resolveBy, h]
  rfl

theorem find?_eq_some_iff {d : Dialect} : find? parse s = some d ↔ resolveBy parse s = .ok d := by
  rw [find?]
  cases resolveBy parse s <;> simp [Except.toOption]

theorem deciderBy_of_url {scheme : String} (hs : isUrlLike s = true) (h : parse s = .ok scheme) :
    deciderBy parse s = .ok (beforePlus scheme) := by
  rw [deciderBy, if_pos hs, h]
  rfl

theorem deciderBy_of_name (hs : isUrlLike s = false) : deciderBy parse s = .ok (Text.trim s) := by
  rw [deciderBy, if_neg (by simp [hs])]

theorem resolveBy_eq_ok_iff {d : Dialect} :
    resolveBy parse s = .ok d ↔
      ∃ name, deciderBy parse s = .ok name ∧ (asciiLower name, d) ∈ names := by
  rw [← find?_eq_some_iff]
  cases hdecider : deciderBy parse s with
  | error e => simp [find?_of_refused hdecider]
  | ok name =>
    rw [find?_of_decider hdecider, ofName?_eq_some_iff]
    simp only [Except.ok.injEq, exists_eq_left']

/-- A text of characters of schemes names what it says. -/
theorem deciderBy_of_isSchemeChar {name : String} (h : ∀ c ∈ name.toList, isSchemeChar c = true) :
    deciderBy parse name = .ok name := by
  rw [deciderBy_of_name (isUrlLike_of_isSchemeChar h), trim_of_isSchemeChar h]

/-- Of a url that is taken, only the name before `://` counts, and not its case. -/
theorem find?_of_url (hparse : ReadsSchemes parse) {name rest scheme : String}
    (hname : ∀ c ∈ name.toList, isSchemeChar c = true)
    (h : parse (name ++ "://" ++ rest) = .ok scheme) :
    find? parse (name ++ "://" ++ rest) =
      ofName? (asciiLower (asciiLower (beforePlus name))) := by
  rw [find?_of_decider (deciderBy_of_url (isUrlLike_append name rest) h),
    hparse.eq_asciiLower hname h, beforePlus_asciiLower]

end

/-- A url and the name in its scheme find the same dialect, or neither finds one; so do two urls
whose names agree in lower case, whatever stands behind them, and two other texts that agree in
lower case without the blanks around them. What is found is known under the name that decides, and
a failure, also that of a client with a name for its dialect, is one of compiling. -/
theorem found_by_name {parse : String → Except UrlError String} (hparse : ReadsSchemes parse) :
    (∀ s scheme, "://".toList <:+: s.toList → parse s = .ok scheme →
      find? parse s = find? parse (beforePlus scheme)) ∧
    (∀ name name' rest rest' scheme scheme', (∀ c ∈ name.toList, isSchemeChar c = true) →
      (∀ c ∈ name'.toList, isSchemeChar c = true) →
      parse (name ++ "://" ++ rest) = .ok scheme → parse (name' ++ "://" ++ rest') = .ok scheme' →
      asciiLower (beforePlus name) = asciiLower (beforePlus name') →
      find? parse (name ++ "://" ++ rest) = find? parse (name' ++ "://" ++ rest')) ∧
    (∀ s t, ¬ "://".toList <:+: s.toList → ¬ "://".toList <:+: t.toList →
      asciiLower (Text.trim s) = asciiLower (Text.trim t) → find? parse s = find? parse t) ∧
    (∀ s d, resolveBy parse s = .ok d ↔
      ∃ name, deciderBy parse s = .ok name ∧ (asciiLower name, d) ∈ names) ∧
    (∀ s e, "://".toList <:+: s.toList → parse s = .error e →
      resolveBy parse s = .error (.invalidUrl s e)) ∧
    (∀ s e, resolveBy parse s = .error e →
      (resolveError e).kind? = some (.compile unknownDialectName e)) ∧
    (∀ o e, (Client.build o).1 = .error e →
      ∃ s cause, o.dialectName = some s ∧ resolve s = .error cause ∧
        e.kind? = some (.compile unknownDialectName cause)) := by
  refine ⟨?name, ?urls, ?texts, fun s d => resolveBy_eq_ok_iff, ?refused, fun s e _ => rfl, ?client⟩
  case name =>
    intro s scheme hs hscheme
    have hchars : ∀ c ∈ (beforePlus scheme).toList, isSchemeChar c = true :=
      isSchemeChar_of_mem_beforePlus (hparse.all_isSchemeChar hscheme)
    rw [find?_of_decider (deciderBy_of_url (isUrlLike_iff.2 hs) hscheme),
      find?_of_decider (deciderBy_of_isSchemeChar hchars)]
  case urls =>
    intro name name' rest rest' scheme scheme' hname hname' hscheme hscheme' hlower
    rw [find?_of_url hparse hname hscheme, find?_of_url hparse hname' hscheme', hlower]
  case texts =>
    intro s t hs ht hlower
    have hs' : isUrlLike s = false := by rwa [← Bool.not_eq_true, isUrlLike_iff]
    have ht' : isUrlLike t = false := by rwa [← Bool.not_eq_true, isUrlLike_iff]
    rw [find?_of_decider (deciderBy_of_name hs'), find?_of_decider (deciderBy_of_name ht'), hlower]
  case refused =>
    intro s e hs he
    rw [resolveBy, deciderBy, if_pos (isUrlLike_iff.2 hs), he]
    rfl
  case client =>
    intro o e he
    rw [Client.build] at he
    split at he
    · cases he
    · rename_i s hname
      split at he
      · cases he
      · rename_i cause hcause
        cases he
        exact ⟨s, cause, hname, hcause, rfl⟩

def shopUrl : String := "MySQL+tls" ++ "://" ++ "user:pw@[::1]:3306/shop?ssl=1#a"

/-- The url of a shop beside a bare one, a name among blanks, and a url without a host before its
port. -/
theorem found_by_name_shop :
    ReadsSchemes Url.scheme ∧ Url.scheme shopUrl = .ok "mysql+tls" ∧
      resolve shopUrl = .ok mysql ∧
      find? Url.scheme shopUrl = find? Url.scheme (beforePlus "mysql+tls") ∧
      find? Url.scheme shopUrl = find? Url.scheme ("mysql" ++ "://" ++ "/") ∧
      find? Url.scheme " MariaDB\n" = find? Url.scheme "mariadb" ∧
      resolve "mysql://:3306/shop" = .error (.invalidUrl "mysql://:3306/shop" .emptyHost) := by
  obtain ⟨hname, hurls, htexts, hfound, hrefused, -⟩ := found_by_name Url.readsSchemes_scheme
  have hscheme : Url.scheme shopUrl = .ok "mysql+tls" := rfl
  have hbare : Url.scheme ("mysql" ++ "://" ++ "/") = .ok "mysql" := rfl
  have hport : Url.scheme "mysql://:3306/shop" = .error .emptyHost := rfl
  have hplain : ∀ s, isUrlLike s = false → ¬ "://".toList <:+: s.toList := fun s hs h => by
    rw [isUrlLike_iff.2 h] at hs
    cases hs
  have hshop : "://".toList <:+: shopUrl.toList := isUrlLike_iff.1 (isUrlLike_append _ _)
  have hchars : ∀ name : String, name.toList.all isSchemeChar = true →
      ∀ c ∈ name.toList, isSchemeChar c = true := fun name => List.all_eq_true.1
  have hlower : asciiLower (beforePlus "MySQL+tls") = asciiLower (beforePlus "mysql") := by
    decide +kernel
  have htrim : asciiLower (Text.trim " MariaDB\n") = asciiLower (Text.trim "mariadb") := by
    decide +kernel
  refine ⟨Url.readsSchemes_scheme, hscheme, (hfound shopUrl mysql).2 ?_, hname _ _ hshop hscheme,
    hurls _ _ _ _ _ _ (hchars _ rfl) (hchars _ rfl) hscheme hbare hlower,
    htexts _ _ (hplain _ rfl) (hplain _ rfl) htrim, hrefused _ _ (isUrlLike_iff.1 rfl) hport⟩
  exact ⟨_, deciderBy_of_url (isUrlLike_iff.2 hshop) hscheme, by decide⟩

end Dialect
end Quarry
