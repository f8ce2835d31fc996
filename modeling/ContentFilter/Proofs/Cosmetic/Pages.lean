import ContentFilter.Cosmetic.Matching
import ContentFilter.Proofs.Hostname.Anchoring

/-!
# The pages a cosmetic filter applies on

A hostname pattern says where it applies in two ways. One that names a hostname
applies on it and on its subdomains. One that ends in `.*` names an entity, and
is compared with what is left of the hostname of the page once its public suffix
is taken off.

Taking the suffix off is a matter of bytes. The service that knows suffixes is
asked for one, and all that is used of the answer is how many bytes it has: that
many are dropped from the end of the hostname, wherever this cuts it. What is
left has to be a text and a dot. Nothing else makes the comparison safe, since
nothing is assumed of the service: its answer may fall into a character or leave
no dot, and then the pattern applies nowhere (`Text.rdrop_utf8_eq_iff`). Only a
suffix that is longer than the hostname leaves an entity without an answer
(`HostnamePattern.fits?_entity_eq_none_iff`), as there is no place to drop so many
bytes from.

`HostnamePattern.Applies` states this in bytes and labels, and
`CosmeticFilter.match?_decides` says that a filter is answered with the first of
its patterns that applies.
-/

namespace ContentFilter

namespace Hostname

/-- A hostname that ends in a name is on or under it exactly if the name starts
at a label. -/
theorem isUnder_append_iff {name before : Text} :
    isUnder name (before ++ name) = true ↔ LabelStartsBehind before := by
  rw [isUnder_iff, LabelStartsBehind, List.append_left_eq_self, List.getLast?_eq_some_iff]
  refine or_congr_right (exists_congr fun sub => ?_)
  rw [List.append_cons, List.append_left_inj]

/-- **Comparing a hostname with a name always has an answer.** A hostname that ends in a
name is not shorter, and there is a byte before a name that is not at the start. -/
theorem endsAtLabel?_eq (name hostname : Text) :
    endsAtLabel? name hostname = some (isUnder name hostname) := by
  unfold endsAtLabel?
  by_cases hends : Search.endsWith name hostname = true
  · obtain ⟨before, rfl⟩ := Search.endsWith_iff.1 hends
    have hplace : Text.placeFromEnd? name.byteLength (before ++ name) =
        some (Text.byteLength before) := by
      rw [Text.placeFromEnd?_of_le (by rw [Text.byteLength_append]; exact Nat.le_add_left ..),
        Text.byteLength_append, Nat.add_sub_cancel]
    rw [if_pos hends, hplace, Option.bind_eq_bind, Option.bind_some]
    cases hlen : Text.byteLength before with
    | zero =>
      have hnil : before = [] := by
        rw [← Text.length_utf8, List.length_eq_zero_iff] at hlen
        exact Text.utf8_eq_nil_iff.1 hlen
      rw [if_pos rfl, isUnder_append_iff.2 (.inl hnil)]
    | succ n =>
      have inside : n < (Text.utf8 (before ++ name)).length := by
        rw [Text.length_utf8, Text.byteLength_append, hlen]
        omega
      rw [if_neg n.succ_ne_zero, Nat.add_sub_cancel, List.getElem?_eq_getElem inside,
        Option.map_some, Option.some.injEq, Bool.eq_iff_iff, decide_eq_true_eq,
        isUnder_append_iff, ← Option.some.injEq, ← List.getElem?_eq_getElem inside,
        Text.getElem?_utf8_dot_iff hlen]
      refine ⟨.inr, fun starts => starts.resolve_left ?_⟩
      rintro rfl
      cases hlen
  · rw [if_neg hends]
    refine congrArg some (Eq.symm (Bool.eq_false_iff.2 fun hunder => hends ?_))
    rw [Search.endsWith_iff]
    rcases isUnder_iff.1 hunder with rfl | ⟨sub, rfl⟩
    · exact List.suffix_rfl
    · exact ⟨sub ++ ['.'], by simp⟩

end Hostname

namespace Resolver

variable {r : Resolver} {hostname : Text}

/-- **The front of a hostname** is what its bytes without those of the suffix
spell in front of a dot. -/
theorem exists_front?_iff {front : Text} :
    (∃ tail, r.front? hostname = some (front, tail)) ↔
      r.isValid hostname = true ∧ ∃ suffix, r.suffix? hostname = some suffix ∧
        (Text.utf8 hostname).rdrop (Text.byteLength suffix) = Text.utf8 (front ++ ['.']) := by
  have hne : front ++ ['.'] ≠ [] := List.append_ne_nil_of_right_ne_nil front (List.cons_ne_nil _ _)
  simp only [front?_eq_some, Text.rdrop_utf8_eq_iff hne, List.append_assoc,
    List.singleton_append]
  constructor
  · rintro ⟨tail, valid, hcut, suffix, hsuffix, hlen⟩
    exact ⟨valid, suffix, hsuffix, tail, hcut, hlen⟩
  · rintro ⟨valid, suffix, hsuffix, tail, hcut, hlen⟩
    exact ⟨tail, valid, hcut, suffix, hsuffix, hlen⟩

/-- **The front of a hostname stands before the place where its suffix starts.** -/
theorem map_front?_of_le {suffix : Text} (valid : r.isValid hostname = true)
    (hsuffix : r.suffix? hostname = some suffix)
    (hle : suffix.byteLength ≤ hostname.byteLength) :
    (r.front? hostname).map (·.1) =
      Hostname.frontAt? (hostname.byteLength - suffix.byteLength) hostname := by
  unfold front? Hostname.frontAt?
  rw [if_pos valid, hsuffix]
  show Option.map _ ((Text.cutLastBytes? _ hostname).bind _) = _
  rw [Text.cutLastBytes?, if_pos hle]
  cases Text.cutBytes? (hostname.byteLength - suffix.byteLength) hostname with
  | none => rfl
  | some parts =>
    show Option.map _ ((Search.dropEnd? ['.'] parts.1).bind _) = Search.dropEnd? ['.'] parts.1
    cases Search.dropEnd? ['.'] parts.1 <;> rfl

/-- A hostname has no front before a suffix that is longer. -/
theorem front?_eq_none_of_overshoots (h : r.Overshoots hostname) :
    r.front? hostname = none := by
  obtain ⟨-, suffix, hsuffix, hlt⟩ := h
  refine Option.eq_none_iff_forall_ne_some.2 fun ⟨front, tail⟩ hfront => ?_
  obtain ⟨-, rfl, suffix', hsuffix', htail⟩ := front?_eq_some.1 hfront
  obtain rfl : suffix = suffix' := Option.some.inj (hsuffix.symm.trans hsuffix')
  rw [Text.byteLength_append, ← htail] at hlt
  simp only [Text.byteLength] at hlt
  omega

end Resolver

namespace HostnamePattern

/-- **What a pattern names**: what stands behind its `~`, if it has one. -/
def Names (pattern name : Text) : Prop :=
  pattern = '~' :: name ∨ (pattern = name ∧ name.head? ≠ some '~')

/-- **A pattern applies on the page of a hostname.** -/
inductive Applies (r : Resolver) (hostname : Text) : Text → Prop
  /-- A hostname applies on itself and on its subdomains. -/
  | hostname {pattern name : Text} (notEntity : ¬ ['.', '*'] <:+ pattern)
      (names : Names pattern name) (under : hostname = name ∨ '.' :: name <:+ hostname) :
      Applies r hostname pattern
  /-- An entity applies where what stands before the suffix and its dot is the
  entity or a subdomain of it. -/
  | entity {entity name suffix front : Text} (names : Names entity name)
      (valid : r.isValid hostname = true) (hsuffix : r.suffix? hostname = some suffix)
      (hfront : (Text.utf8 hostname).rdrop (Text.byteLength suffix) = Text.utf8 (front ++ ['.']))
      (nonempty : front ≠ []) (under : front = name ∨ '.' :: name <:+ front) :
      Applies r hostname (entity ++ ['.', '*'])

/-- A pattern names what is left of it without its `~`. -/
theorem names_iff {pattern name : Text} : Names pattern name ↔ name = dropNegation pattern := by
  unfold Names dropNegation
  split
  · next rest =>
    constructor
    · rintro (h | ⟨rfl, h⟩)
      · exact (List.cons.inj h).2.symm
      · exact absurd rfl h
    · rintro rfl
      exact .inl rfl
  · next unmarked =>
    constructor
    · rintro (rfl | ⟨rfl, -⟩)
      · exact absurd rfl (unmarked name)
      · rfl
    · rintro rfl
      refine .inr ⟨rfl, fun h => ?_⟩
      obtain ⟨rest, hrest⟩ := List.head?_eq_some_iff.1 h
      exact unmarked rest hrest

/-- A hostname is on a name or below it exactly if it ends with it at a
label. -/
theorem isUnder_iff_suffix {name hostname : Text} :
    Hostname.isUnder name hostname = true ↔ hostname = name ∨ '.' :: name <:+ hostname := by
  rw [Hostname.isUnder, Bool.or_eq_true, decide_eq_true_eq, Search.endsWith_iff]

variable {r : Resolver} {pattern entity hostname : Text}

/-- A pattern that is no entity has an answer on every page: whether the page is on its
name or below it. -/
theorem fits?_hostname (h : ¬ ['.', '*'] <:+ pattern) (r : Resolver) (hostname : Text) :
    fits? r pattern hostname = some (Hostname.isUnder (dropNegation pattern) hostname) := by
  unfold fits?
  rw [Search.dropEnd?_eq_none.2 h]
  exact Hostname.endsAtLabel?_eq _ _

/-- **An entity has no answer where the suffix overshoots the hostname.** -/
theorem fits?_entity_of_overshoots (h : r.Overshoots hostname) (entity : Text) :
    fits? r (entity ++ ['.', '*']) hostname = none := by
  obtain ⟨valid, suffix, hsuffix, hlt⟩ := h
  unfold fits?
  rw [Search.dropEnd?_append]
  dsimp only
  rw [if_pos valid, hsuffix]
  dsimp only
  rw [Text.placeFromEnd?_of_lt hlt, Option.bind_eq_bind, Option.bind_none]

/-- **Elsewhere an entity is compared with the front.** -/
theorem fits?_entity_of_not_overshoots (h : ¬ r.Overshoots hostname) (entity : Text) :
    fits? r (entity ++ ['.', '*']) hostname =
      some (((r.front? hostname).map (·.1)).any fun front =>
        front ≠ [] && Hostname.isUnder (dropNegation entity) front) := by
  unfold fits?
  rw [Search.dropEnd?_append]
  dsimp only
  by_cases valid : r.isValid hostname = true
  · rw [if_pos valid]
    cases hsuffix : r.suffix? hostname with
    | none =>
      rw [Resolver.front?, if_pos valid, hsuffix]
      rfl
    | some suffix =>
      have hle : suffix.byteLength ≤ hostname.byteLength :=
        Nat.le_of_not_lt fun hlt => h ⟨valid, suffix, hsuffix, hlt⟩
      dsimp only
      rw [Text.placeFromEnd?_of_le hle, Option.bind_eq_bind, Option.bind_some,
        ← Resolver.map_front?_of_le valid hsuffix hle]
      cases (r.front? hostname).map (·.1) with
      | none => rfl
      | some front =>
        dsimp only [Option.any_some]
        by_cases empty : front = []
        · rw [if_pos empty, decide_eq_false (not_not_intro empty), Bool.false_and]
        · rw [if_neg empty, decide_eq_true empty, Bool.true_and, Hostname.endsAtLabel?_eq]
  · rw [if_neg valid, Resolver.front?, if_neg valid]
    rfl

/-- **An entity has no answer exactly where the suffix overshoots the hostname.** -/
theorem fits?_entity_eq_none_iff :
    fits? r (entity ++ ['.', '*']) hostname = none ↔ r.Overshoots hostname := by
  refine ⟨fun hnone => Classical.byContradiction fun h => ?_,
    fun h => fits?_entity_of_overshoots h entity⟩
  rw [fits?_entity_of_not_overshoots h] at hnone
  cases hnone

/-- **An entity fits a hostname if it fits the front.** -/
theorem fits?_entity_iff :
    fits? r (entity ++ ['.', '*']) hostname = some true ↔
      ∃ front tail, r.front? hostname = some (front, tail) ∧ front ≠ [] ∧
        Hostname.isUnder (dropNegation entity) front = true := by
  by_cases h : r.Overshoots hostname
  · rw [fits?_entity_of_overshoots h, Resolver.front?_eq_none_of_overshoots h]
    exact iff_of_false nofun nofun
  · rw [fits?_entity_of_not_overshoots h, Option.some.injEq, Option.any_map, Option.any_eq_true]
    simp only [Prod.exists, Bool.and_eq_true, decide_eq_true_eq]

/-- **A pattern fits a hostname exactly if it applies on its page.** -/
theorem fits?_iff_applies :
    fits? r pattern hostname = some true ↔ Applies r hostname pattern := by
  constructor
  · intro h
    by_cases hentity : ['.', '*'] <:+ pattern
    · obtain ⟨entity, rfl⟩ := hentity
      obtain ⟨front, tail, hfront, nonempty, under⟩ := fits?_entity_iff.1 h
      obtain ⟨valid, suffix, hsuffix, hcut⟩ := Resolver.exists_front?_iff.1 ⟨tail, hfront⟩
      exact .entity (names_iff.2 rfl) valid hsuffix hcut nonempty (isUnder_iff_suffix.1 under)
    · rw [fits?_hostname hentity, Option.some.injEq] at h
      exact .hostname hentity (names_iff.2 rfl) (isUnder_iff_suffix.1 h)
  · intro h
    cases h with
    | hostname notEntity names under =>
      rw [fits?_hostname notEntity, ← names_iff.1 names, isUnder_iff_suffix.2 under]
    | entity names valid hsuffix hcut nonempty under =>
      obtain ⟨tail, hfront⟩ := Resolver.exists_front?_iff.2 ⟨valid, _, hsuffix, hcut⟩
      refine fits?_entity_iff.2 ⟨_, tail, hfront, nonempty, ?_⟩
      rw [← names_iff.1 names]
      exact isUnder_iff_suffix.2 under

/-- **Every pattern has an answer** on a page whose suffix does not overshoot it. -/
theorem isSome_fits?_of_not_overshoots (h : ¬ r.Overshoots hostname) (pattern : Text) :
    (fits? r pattern hostname).isSome = true := by
  by_cases hentity : ['.', '*'] <:+ pattern
  · obtain ⟨entity, rfl⟩ := hentity
    rw [fits?_entity_of_not_overshoots h, Option.isSome_some]
  · rw [fits?_hostname hentity, Option.isSome_some]

end HostnamePattern

namespace CosmeticFilter

open HostnamePattern (Applies fits? fits?_iff_applies)

variable {f : CosmeticFilter} {r : Resolver} {hostname : Text}

/-- A pattern that is found is one of those asked. -/
theorem mem_of_findM?_eq_some {α : Type} {p : α → Option Bool} {l : List α} {a : α}
    (h : l.findM? p = some (some a)) : a ∈ l := by
  induction l with
  | nil => cases h
  | cons b l ih =>
    rw [List.findM?] at h
    obtain ⟨fit, -, h⟩ := Option.bind_eq_some_iff.1 h
    cases fit with
    | true =>
      cases h
      exact List.mem_cons_self
    | false => exact List.mem_cons_of_mem b (ih h)

/-- **A filter that names hostnames** applies on pages of these only. -/
theorem exists_hostname_of_match? {m : CosmeticMatch} (named : f.hostnames ≠ [])
    (h : f.match? r hostname = some (some m)) :
    hostname ≠ [] ∧ ∃ pattern ∈ f.hostnames, m = .hostname pattern := by
  unfold match? at h
  rw [if_neg named] at h
  split at h
  · cases h
  · next nonempty =>
    obtain ⟨pattern?, found, h⟩ := Option.bind_eq_some_iff.1 h
    obtain ⟨pattern, rfl, rfl⟩ := Option.map_eq_some_iff.1 (Option.some.inj h)
    exact ⟨nonempty, pattern, mem_of_findM?_eq_some found, rfl⟩

/-- A filter with hostnames asks its patterns, one by one. Each has an answer where the
suffix does not overshoot the hostname. -/
theorem match?_of_ne_nil (named : f.hostnames ≠ []) (nonempty : hostname ≠ [])
    (inside : ¬ r.Overshoots hostname) :
    f.match? r hostname =
      some ((f.hostnames.find? (fits? r · hostname = some true)).map .hostname) := by
  have total : (fits? r · hostname) =
      fun pattern => pure (decide (fits? r pattern hostname = some true)) := by
    funext pattern
    obtain ⟨answer, h⟩ :=
      Option.isSome_iff_exists.1 (HostnamePattern.isSome_fits?_of_not_overshoots inside pattern)
    rw [h]
    cases answer <;> rfl
  rw [match?, if_neg named, if_neg nonempty, total, List.findM?_pure]
  rfl

/-- **The first pattern that applies** is the one a filter is answered with. -/
theorem find?_fits?_eq_some_iff {patterns : List Text} {pattern : Text} :
    patterns.find? (fits? r · hostname = some true) = some pattern ↔
      ∃ before after, patterns = before ++ pattern :: after ∧ Applies r hostname pattern ∧
        ∀ p ∈ before, ¬ Applies r hostname p := by
  rw [List.find?_eq_some_iff_append]
  simp only [← fits?_iff_applies, Bool.not_eq_true', decide_eq_true_eq, decide_eq_false_iff_not]
  constructor
  · rintro ⟨fit, before, after, split, first⟩
    exact ⟨before, after, split, fit, first⟩
  · rintro ⟨before, after, split, fit, first⟩
    exact ⟨fit, before, after, split, first⟩

/-- **How a filter applies on a page.** It applies everywhere exactly if it has
no hostnames. Otherwise it applies on no page without a hostname, and on any
other, unless the suffix overshoots it, it is answered with the first of its patterns
that applies there; it does not apply if none does. -/
theorem match?_decides (f : CosmeticFilter) (r : Resolver) (hostname : Text) :
    (f.match? r hostname = some (some .everywhere) ↔ f.hostnames = []) ∧
    (¬ r.Overshoots hostname →
      (∀ pattern, f.match? r hostname = some (some (.hostname pattern)) ↔ hostname ≠ [] ∧
        ∃ before after, f.hostnames = before ++ pattern :: after ∧ Applies r hostname pattern ∧
          ∀ p ∈ before, ¬ Applies r hostname p) ∧
      (f.match? r hostname = some none ↔ f.hostnames ≠ [] ∧
        (hostname = [] ∨ ∀ p ∈ f.hostnames, ¬ Applies r hostname p))) := by
  by_cases named : f.hostnames = []
  · have everywhere : f.match? r hostname = some (some .everywhere) := if_pos named
    rw [everywhere, named]
    refine ⟨iff_of_true rfl rfl, fun _ => ⟨fun pattern => iff_of_false nofun ?_,
      iff_of_false nofun ?_⟩⟩
    · rintro ⟨-, before, after, split, -⟩
      exact List.append_ne_nil_of_right_ne_nil before (List.cons_ne_nil pattern after) split.symm
    · exact fun h => h.1 rfl
  by_cases empty : hostname = []
  · have nowhere : f.match? r hostname = some none := by rw [match?, if_neg named, if_pos empty]
    rw [nowhere]
    exact ⟨iff_of_false nofun named, fun _ => ⟨fun _ => iff_of_false nofun fun h => h.1 empty,
      iff_of_true rfl ⟨named, .inl empty⟩⟩⟩
  refine ⟨iff_of_false (fun h => ?_) named, fun inside => ?_⟩
  · obtain ⟨-, pattern, -, he⟩ := exists_hostname_of_match? named h
    cases he
  · rw [match?_of_ne_nil named empty inside]
    refine ⟨fun pattern => ?_, ?_⟩
    · rw [and_iff_right empty, ← find?_fits?_eq_some_iff, Option.some.injEq,
        Option.map_eq_some_iff]
      simp only [CosmeticMatch.hostname.injEq, exists_eq_right]
    · rw [and_iff_right named, or_iff_right empty, Option.some.injEq, Option.map_eq_none_iff,
        List.find?_eq_none]
      simp only [fits?_iff_applies, decide_eq_true_eq]

/-- An entity behind a `~`, a name in another script, and a subdomain of a page
whose suffix takes the last two bytes. -/
theorem match?_decides_entity :
    let f := make (.of fun _ => false) ["b.ex".toList, "~bücher.*".toList, "ex".toList]
      ".ad".toList none
    ¬ Resolver.lastLabelOnly.Overshoots "shop.bücher.ex".toList ∧
      f.match? .lastLabelOnly "shop.bücher.ex".toList =
        some (some (.hostname "~bücher.*".toList)) ∧
      ∃ before after, f.hostnames = before ++ "~bücher.*".toList :: after ∧
        Applies .lastLabelOnly "shop.bücher.ex".toList "~bücher.*".toList ∧
        ∀ p ∈ before, ¬ Applies .lastLabelOnly "shop.bücher.ex".toList p := by
  intro f
  have inside : ¬ Resolver.lastLabelOnly.Overshoots "shop.bücher.ex".toList := by
    rintro ⟨-, suffix, hsuffix, hlt⟩
    obtain rfl : "ex".toList = suffix := Option.some.inj hsuffix
    exact absurd hlt (by decide)
  have found : f.match? .lastLabelOnly "shop.bücher.ex".toList =
      some (some (.hostname "~bücher.*".toList)) := by decide +kernel
  exact ⟨inside, found, ((((match?_decides f .lastLabelOnly _).2 inside).1 _).1 found).2⟩

end CosmeticFilter

end ContentFilter
