import FlowPeers.Http.Target
import FlowPeers.Proofs.Literals
import FlowPeers.Url.Read

/-!
# The written form of a URL

What the written form of a URL says of its scheme and its authority can be read off it again. This
is so because nothing that stands in a host, in the name of a user or in a port ends an authority
(`Url.IsWritable`), which holds of every URL that is read (`Url.isWritable_parse`), also relative to
another one (`Url.isWritable_join`). There are few ways to read a URL, `Url.IsRead`, and all that is
proved of what is read is proved for each of them.
-/

namespace FlowPeers

open Text

/-- Whether no character of a text ends an authority. -/
def IsWithin (text : List Char) : Prop :=
  ∀ c ∈ text, Target.endsAuthority c = false

instance (text : List Char) : Decidable (IsWithin text) :=
  List.decidableBAll _ text

theorem endsAuthority_iff {c : Char} :
    Target.endsAuthority c ↔ c = '/' ∨ c = '?' ∨ c = '#' := by
  simp [Target.endsAuthority, or_assoc]

theorem isWithin_nil : IsWithin [] := by
  simp [IsWithin]

theorem isWithin_cons_iff {c : Char} {text : List Char} :
    IsWithin (c :: text) ↔ Target.endsAuthority c = false ∧ IsWithin text :=
  List.forall_mem_cons

theorem isWithin_append_iff {text text' : List Char} :
    IsWithin (text ++ text') ↔ IsWithin text ∧ IsWithin text' :=
  List.forall_mem_append

theorem isWithin_joinWith {separator : List Char} {pieces : List (List Char)}
    (hseparator : IsWithin separator) (h : ∀ piece ∈ pieces, IsWithin piece) :
    IsWithin (joinWith separator pieces) := by
  intro c hc
  rcases exists_of_mem_joinWith hc with hc | ⟨piece, hpiece, hc⟩
  · exact hseparator c hc
  · exact h piece hpiece c hc

/-! ## Digits and percent signs -/

theorem isWithin_toDigits {base : Nat} (hbase : 1 < base) (hle : base ≤ 16) (n : Nat) :
    IsWithin (Nat.toDigits base n) := by
  have hdigit : ∀ d < 16, Target.endsAuthority d.digitChar = false := by decide
  exact forall_mem_toDigits hbase (fun d hd => hdigit d (by omega)) n

/-- Nothing ends an authority where what would is percent-encoded. -/
theorem isWithin_percentEncode {escaped : Char → Bool} {text : List Char}
    (h : ∀ c ∈ text, Target.endsAuthority c → escaped c) : IsWithin (percentEncode escaped text) := by
  have hdigit : ∀ d < 16, Target.endsAuthority (upperHexDigit d) = false := by decide
  intro c hc
  rcases of_mem_percentEncode hc with ⟨hmem, -, hplain⟩ | rfl | ⟨d, hd, rfl⟩
  · rw [Bool.eq_false_iff]
    intro hends
    rw [h c hmem hends] at hplain
    contradiction
  · decide
  · exact hdigit d hd

/-! ## Hosts -/

namespace Host

theorem isWithin_print_ipv4 (ip : Ipv4) : IsWithin ip.print := by
  refine isWithin_joinWith (by decide) ?_
  intro piece hpiece
  obtain ⟨byte, -, rfl⟩ := List.mem_map.1 hpiece
  exact isWithin_toDigits (by decide) (by decide) _

theorem isWithin_print_ipv6 (ip : Ipv6) : IsWithin ip.print := by
  have hgroups : ∀ groups, IsWithin (Ipv6.printGroups groups) := by
    intro groups
    refine isWithin_joinWith (by decide) ?_
    intro piece hpiece
    obtain ⟨group, -, rfl⟩ := List.mem_map.1 hpiece
    exact isWithin_toDigits (by decide) (by decide) _
  rw [Ipv6.print]
  simp only
  split
  · exact hgroups _
  · exact isWithin_append_iff.2 ⟨isWithin_append_iff.2 ⟨hgroups _, by decide⟩, hgroups _⟩

theorem isWithin_readBracketed {text : List Char} {host : Host}
    (h : readBracketed text = .ok host) : IsWithin host.print := by
  rw [readBracketed] at h
  split at h
  · split at h
    · next ip _ =>
      cases h
      simp only [print, List.cons_append, isWithin_cons_iff, isWithin_append_iff]
      exact ⟨by decide, isWithin_print_ipv6 ip, by decide, isWithin_nil⟩
    · contradiction
  · contradiction

theorem isWithin_toAscii? {text name : List Char} (h : Domain.toAscii? text = some name) :
    IsWithin name := by
  rw [Domain.toAscii?] at h
  split at h
  · contradiction
  · simp only at h
    split at h
    · next hfits =>
      cases h
      rw [Bool.and_eq_true, Bool.not_eq_true', List.any_eq_false] at hfits
      intro c hc
      have hallowed := hfits.2 c hc
      rw [Bool.eq_false_iff]
      intro hends
      refine hallowed ?_
      rcases endsAuthority_iff.1 hends with rfl | rfl | rfl <;> decide
    · contradiction

theorem isWithin_readWeb {text : List Char} {host : Host} (h : readWeb text = .ok host) :
    IsWithin host.print := by
  unfold readWeb at h
  split at h
  · exact isWithin_readBracketed h
  · split at h
    · contradiction
    · contradiction
    · next name _ hname =>
      split at h
      · cases hip : Ipv4.readLoose name with
        | error e =>
          rw [hip] at h
          contradiction
        | ok ip =>
          rw [hip] at h
          cases h
          exact isWithin_print_ipv4 ip
      · cases h
        obtain ⟨decoded, -, hascii⟩ := Option.bind_eq_some_iff.1 hname
        exact isWithin_toAscii? hascii

theorem isWithin_readOpaque {text : List Char} {host : Host} (h : readOpaque text = .ok host) :
    IsWithin host.print := by
  unfold readOpaque at h
  split at h
  · exact isWithin_readBracketed h
  · split at h
    · contradiction
    · next hallowed =>
      cases h
      refine isWithin_percentEncode fun c hc hends => absurd ?_ hallowed
      refine List.any_eq_true.2 ⟨c, hc, ?_⟩
      rcases endsAuthority_iff.1 hends with rfl | rfl | rfl <;> decide

end Host

namespace Url

/-! ## Schemes -/

/-- Whether a text can stand as a scheme in every written form. -/
structure IsScheme (scheme : List Char) : Prop where
  ne_nil : scheme ≠ []
  isSchemeChar : ∀ c ∈ scheme, Target.isSchemeChar c
  lower : scheme.map Unicode.lowerAscii = scheme

theorem isScheme_fileScheme : IsScheme fileScheme where
  ne_nil := by decide
  isSchemeChar := List.all_eq_true.1 (by decide)
  lower := by decide

/-- A character that is not in lower case already becomes a letter in lower case. -/
theorem lowerAscii_cases (c : Char) :
    Unicode.lowerAscii c = c ∨ (Unicode.lowerAscii c).isLower := by
  have hupper : ∀ n < 91, 65 ≤ n → (Char.ofNat (n + 0x20)).isLower := by decide
  by_cases hc : 'A' ≤ c ∧ c ≤ 'Z'
  · have hlow : 65 ≤ c.toNat := hc.1
    have hhigh : c.toNat ≤ 90 := hc.2
    rw [Unicode.lowerAscii, if_pos hc]
    exact .inr (hupper c.toNat (by omega) hlow)
  · exact .inl (if_neg hc)

theorem lowerAscii_lowerAscii (c : Char) :
    Unicode.lowerAscii (Unicode.lowerAscii c) = Unicode.lowerAscii c := by
  rcases lowerAscii_cases c with hsame | hlower
  · rw [hsame, hsame]
  · refine if_neg fun hupper => ?_
    have hlow : 97 ≤ (Unicode.lowerAscii c).toNat :=
      of_decide_eq_true (Bool.and_eq_true_iff.1 hlower).1
    have hhigh : (Unicode.lowerAscii c).toNat ≤ 90 := hupper.2
    omega

theorem isAlpha_of_isLower {c : Char} (h : c.isLower) : c.isAlpha :=
  Bool.or_eq_true_iff.2 (.inr h)

theorem isAlpha_lowerAscii {c : Char} (h : c.isAlpha) : (Unicode.lowerAscii c).isAlpha := by
  rcases lowerAscii_cases c with hsame | hlower
  · rwa [hsame]
  · exact isAlpha_of_isLower hlower

theorem isSchemeChar_lowerAscii {c : Char} (h : isSchemeChar c) :
    isSchemeChar (Unicode.lowerAscii c) := by
  rcases lowerAscii_cases c with hsame | hlower
  · rwa [hsame]
  · simp [isSchemeChar, Char.isAlphanum, isAlpha_of_isLower hlower]

theorem isSchemeChar_target {c : Char} (h : isSchemeChar c) : Target.isSchemeChar c := by
  simp only [isSchemeChar, Bool.or_eq_true, beq_iff_eq] at h
  rcases h with ((h | rfl) | rfl) | rfl
  · simp [Target.isSchemeChar, h]
  · decide
  · decide
  · decide

/-- A text with a scheme is the scheme in any case, a colon and the rest. -/
theorem exists_of_splitScheme? {text scheme rest : List Char}
    (h : splitScheme? text = some (scheme, rest)) :
    ∃ raw, text = raw ++ ':' :: rest ∧ scheme = raw.map Unicode.lowerAscii ∧
      raw.head?.any Char.isAlpha ∧ ∀ c ∈ raw, isSchemeChar c := by
  rw [splitScheme?] at h
  split at h
  · next first rest' hfirst hrest =>
    split at h
    · next halpha =>
      cases h
      refine ⟨text.takeWhile isSchemeChar, ?_, rfl, ?_, ?_⟩
      · rw [← hrest, List.takeWhile_append_dropWhile]
      · cases text with
        | nil => contradiction
        | cons c more =>
          obtain rfl : c = first := Option.some.inj hfirst
          have hscheme : isSchemeChar c = true := by
            simp [isSchemeChar, Char.isAlphanum, halpha]
          simp [hscheme, halpha]
      · exact fun c hc => List.all_eq_true.1 List.all_takeWhile c hc
    · contradiction
  · contradiction

theorem isScheme_of_splitScheme? {text scheme rest : List Char}
    (h : splitScheme? text = some (scheme, rest)) : IsScheme scheme := by
  obtain ⟨raw, -, rfl, hne, hraw⟩ := exists_of_splitScheme? h
  refine ⟨?_, ?_, ?_⟩
  · rintro hnil
    rw [List.map_eq_nil_iff.1 hnil] at hne
    contradiction
  · intro c hc
    obtain ⟨d, hd, rfl⟩ := List.mem_map.1 hc
    exact isSchemeChar_target (isSchemeChar_lowerAscii (hraw d hd))
  · rw [List.map_map]
    exact List.map_congr_left fun c _ => lowerAscii_lowerAscii c

/-! ## Authorities -/

theorem isWithin_readHost {kind : Kind} {text : List Char} {host : Host}
    (h : readHost kind text = .ok (some host)) : IsWithin host.print := by
  have hmap : ∀ {result : Except UrlError Host}, result.map some = .ok (some host) →
      result = .ok host := by
    intro result hresult
    cases result with
    | error e => contradiction
    | ok value => exact congrArg Except.ok (Option.some.inj (Except.ok.inj hresult))
  unfold readHost at h
  split at h
  · cases h
  · exact Host.isWithin_readOpaque (hmap h)
  · cases h
  · exact Host.isWithin_readWeb (hmap h)

theorem isWithin_readFileHost {text : List Char} {host : Host}
    (h : readFileHost text = .ok (some host)) : IsWithin host.print := by
  rw [readFileHost] at h
  split at h
  · cases h
  · split at h
    · contradiction
    · next read hread =>
      have hhost : read = host := by
        split at h
        · cases h
        · exact Option.some.inj (Except.ok.inj h)
      exact hhost ▸ Host.isWithin_readWeb hread

theorem isWithin_print_authority {a : Authority} (huser : IsWithin a.user)
    (hpassword : IsWithin a.password) (hhost : ∀ host, a.host = some host → IsWithin host.print) :
    IsWithin a.print := by
  have hport : ∀ n, IsWithin (':' :: decimal n) := fun n =>
    isWithin_cons_iff.2 ⟨by decide, isWithin_toDigits (by decide) (by decide) n⟩
  rw [Authority.print]
  refine isWithin_append_iff.2 ⟨isWithin_append_iff.2 ⟨?_, ?_⟩, ?_⟩
  · split
    · exact isWithin_nil
    · refine isWithin_append_iff.2 ⟨isWithin_append_iff.2 ⟨huser, ?_⟩, by decide⟩
      split
      · exact isWithin_nil
      · exact isWithin_cons_iff.2 ⟨by decide, hpassword⟩
  · cases hsome : a.host with
    | none => exact isWithin_nil
    | some host => exact hhost host hsome
  · cases a.port with
    | none => exact isWithin_nil
    | some port => exact hport _

/-- A host is written as a part of its authority. -/
theorem isWithin_of_isWithin_print {a : Authority} (h : IsWithin a.print) {host : Host}
    (hhost : a.host = some host) : IsWithin host.print := by
  rw [Authority.print, isWithin_append_iff, isWithin_append_iff, hhost] at h
  exact h.1.2

theorem isWithin_readAuthority {scheme : List Char} {atEnd : Bool} {text left : List Char}
    {a : Authority} (h : readAuthority scheme atEnd text = .ok (a, left)) : IsWithin a.print := by
  have huser : ∀ text, IsWithin (percentEncode escapedInUser text) := by
    intro text
    refine isWithin_percentEncode fun c _ hends => ?_
    rcases endsAuthority_iff.1 hends with rfl | rfl | rfl <;> decide
  rw [readAuthority] at h
  simp only at h
  split at h
  · contradiction
  · split at h
    · contradiction
    · next host hhost =>
      split at h
      · contradiction
      · split at h
        · contradiction
        · split at h
          · contradiction
          · cases h
            refine isWithin_print_authority (huser _) (huser _) ?_
            rintro host rfl
            exact isWithin_readHost hhost

/-! ## URLs that are read -/

/-- Whether a URL can be what is read of a text, relative to another URL if there is one: with an
authority of its own, with a path that follows the scheme, as a file, or with a path, a query or a
fragment in the place of those of the other URL. -/
inductive IsRead (base : Option Url) : Url → Prop
  | authority {scheme text left rest : List Char} {atEnd : Bool} {a : Authority}
      (hscheme : IsScheme scheme) (hread : readAuthority scheme atEnd text = .ok (a, left)) :
      IsRead base (complete scheme (some a) (readPathAfter (kind scheme)) rest)
  | root {scheme rest : List Char} (hscheme : IsScheme scheme) :
      IsRead base (complete scheme none (fun path => .rooted (readSegments .other [] path)) rest)
  | flat {scheme text : List Char} (hscheme : IsScheme scheme) (hhead : text.head? ≠ some '/') :
      IsRead base
        (complete scheme none (fun path => .flat (percentEncode Host.isControl path)) text)
  | file {host : Option Host} {before : List (List Char)} {text : List Char}
      (hhost : ∀ read, host = some read → (∃ name, readFileHost name = .ok (some read)) ∨
        ∃ url, base = some url ∧ url.host? = some read)
      (hbefore : ∀ segment ∈ before, ∃ url, base = some url ∧ segment ∈ url.path.segmentList) :
      IsRead base (fileUrl host before text)
  | path {url : Url} {before : List (List Char)} {text : List Char} (hbase : base = some url)
      (hbefore : ∀ segment ∈ before, segment ∈ url.path.segmentList) :
      IsRead base (complete url.scheme url.authority
        (fun path => .rooted (readSegments (kind url.scheme) before path)) text)
  | suffix {url : Url} {text : List Char} (hbase : base = some url) :
      IsRead base (url.withSuffix text)
  | fragment {url : Url} {text : List Char} (hbase : base = some url) :
      IsRead base (url.withFragment text)
  | whole {url : Url} (hbase : base = some url) : IsRead base { url with fragment := none }

theorem mem_of_mem_folder {kind : Kind} {segments : List (List Char)} {segment : List Char}
    (h : segment ∈ folder kind segments) : segment ∈ segments := by
  rw [folder] at h
  split at h
  · exact h
  · exact (List.dropLast_subset _) h

theorem isRead_fileUrl (base : Option Url) (text : List Char) :
    IsRead base (fileUrl none [] text) :=
  .file (by simp) (by simp)

theorem isRead_readFromAuthority {base : Option Url} {scheme text : List Char} {url : Url}
    (hscheme : IsScheme scheme) (h : readFromAuthority scheme text = .ok url) : IsRead base url := by
  rw [readFromAuthority] at h
  simp only at h
  split at h
  · contradiction
  · next hread =>
    cases h
    exact .authority hscheme hread

theorem isRead_readOther {base : Option Url} {scheme text : List Char} {url : Url}
    (hscheme : IsScheme scheme) (h : readOther scheme text = .ok url) : IsRead base url := by
  unfold readOther at h
  split at h
  · exact isRead_readFromAuthority hscheme h
  · cases h
    exact .root hscheme
  · next hslash =>
    cases h
    refine .flat hscheme fun hhead => ?_
    obtain ⟨rest, rfl⟩ := List.head?_eq_some_iff.1 hhead
    exact hslash rest rfl

theorem isRead_readFileFromHost {base : Option Url} {text : List Char} {url : Url}
    (h : readFileFromHost text = .ok url) : IsRead base url := by
  rw [readFileFromHost] at h
  simp only at h
  split at h
  · cases h
    exact isRead_fileUrl base _
  · split at h
    · contradiction
    · next host hhost =>
      cases h
      refine .file (fun read hread => .inl ?_) (by simp)
      split at hread
      · contradiction
      · exact ⟨_, hread ▸ hhost⟩

theorem isRead_fromRoot (base : Option Url) (text : List Char) :
    IsRead base (readFile.fromRoot base text) := by
  unfold readFile.fromRoot
  split
  · exact isRead_fileUrl _ _
  · next url =>
    split
    · exact isRead_fileUrl _ _
    · split
      · next first hfirst =>
        split
        · refine .file (by simp) (List.forall_mem_singleton.2 ⟨url, rfl, ?_⟩)
          exact List.mem_of_mem_head? hfirst
        · exact .file (fun read hread => .inr ⟨url, rfl, hread⟩) (by simp)
      · exact .file (fun read hread => .inr ⟨url, rfl, hread⟩) (by simp)

theorem isRead_readFile {base : Option Url} {text : List Char} {url : Url}
    (h : readFile base text = .ok url) : IsRead base url := by
  unfold readFile at h
  split at h
  · split at h
    · split at h
      · split at h
        · exact isRead_readFileFromHost h
        · cases h
          exact isRead_fromRoot base _
      · cases h
        exact isRead_fromRoot base _
    · split at h
      · cases h
        exact isRead_fileUrl _ _
      · next base =>
        split at h
        · cases h
          exact .suffix rfl
        · split at h
          · cases h
            exact .fragment rfl
          · split at h
            · cases h
              exact isRead_fileUrl _ _
            · cases h
              exact .file (fun read hread => .inr ⟨base, rfl, hread⟩)
                fun segment hmem => ⟨base, rfl, mem_of_mem_folder hmem⟩
  · split at h
    · cases h
      exact isRead_fileUrl _ _
    · cases h
      exact .whole rfl

theorem isRead_readRelative {base : Url} (hscheme : IsScheme base.scheme) {text : List Char}
    {url : Url} (h : readRelative base text = .ok url) : IsRead (some base) url := by
  unfold readRelative at h
  simp only at h
  split at h
  · cases h
    exact .whole rfl
  · cases h
    exact .suffix rfl
  · cases h
    exact .fragment rfl
  · exact isRead_readFromAuthority hscheme h
  · split at h
    · split at h
      · exact isRead_readFromAuthority hscheme h
      · cases h
        exact .path rfl (by simp)
    · cases h
      exact .path rfl fun segment => mem_of_mem_folder

/-- What is relative to a URL is also relative to it where it need not be of some kind. -/
theorem IsRead.of_filter {base : Option Url} {p : Url → Bool} {url : Url}
    (h : IsRead (base.filter p) url) : IsRead base url := by
  have hbase : ∀ {url}, base.filter p = some url → base = some url := fun heq =>
    (Option.filter_eq_some_iff.1 heq).1
  cases h with
  | authority hscheme hread => exact .authority hscheme hread
  | root hscheme => exact .root hscheme
  | flat hscheme hhead => exact .flat hscheme hhead
  | file hhost hbefore =>
    refine .file (fun read hread => (hhost read hread).imp_right ?_) fun segment hmem => ?_
    · exact fun ⟨url, heq, hsome⟩ => ⟨url, hbase heq, hsome⟩
    · obtain ⟨url, heq, hsegment⟩ := hbefore segment hmem
      exact ⟨url, hbase heq, hsegment⟩
  | path heq hbefore => exact .path (hbase heq) hbefore
  | suffix heq => exact .suffix (hbase heq)
  | fragment heq => exact .fragment (hbase heq)
  | whole heq => exact .whole (hbase heq)

/-- Whether what a text is relative to, if anything, has a scheme that can be written. -/
def IsBase (base : Option Url) : Prop :=
  ∀ url, base = some url → IsScheme url.scheme

theorem isRead_readAfterScheme {base : Option Url} (hbase : IsBase base)
    {scheme text : List Char} (hscheme : IsScheme scheme) {url : Url}
    (h : readAfterScheme base scheme text = .ok url) : IsRead base url := by
  rw [readAfterScheme] at h
  split at h
  · exact (isRead_readFile h).of_filter
  · exact isRead_readOther hscheme h
  · simp only at h
    split at h
    · next found hfound =>
      split at h
      · have hread := isRead_readRelative (hbase found (Option.filter_eq_some_iff.1 hfound).1) h
        rw [← hfound] at hread
        exact hread.of_filter
      · exact isRead_readFromAuthority hscheme h
    · exact isRead_readFromAuthority hscheme h

theorem isRead_readWithoutScheme {base : Option Url} (hbase : IsBase base) {text : List Char}
    {url : Url} (h : readWithoutScheme base text = .ok url) : IsRead base url := by
  unfold readWithoutScheme at h
  split at h
  · contradiction
  · next base =>
    split at h
    · cases h
      exact .fragment rfl
    · contradiction
    · split at h
      · exact isRead_readFile h
      · exact isRead_readRelative (hbase base rfl) h

/-- Every URL that is read is read in one of these ways. -/
theorem isRead_readOnto {base : Option Url} (hbase : IsBase base) {text : List Char} {url : Url}
    (h : readOnto base text = .ok url) : IsRead base url := by
  rw [readOnto] at h
  split at h
  · next scheme rest hscheme =>
    exact isRead_readAfterScheme hbase (isScheme_of_splitScheme? hscheme) h
  · exact isRead_readWithoutScheme hbase h

theorem isRead_parse {text : List Char} {url : Url} (h : parse text = .ok url) :
    IsRead none url :=
  isRead_readOnto (by simp [IsBase]) h

theorem isRead_join {base url : Url} (hbase : IsScheme base.scheme) {text : List Char}
    (h : base.join text = .ok url) : IsRead (some base) url :=
  isRead_readOnto (fun _ heq => Option.some.inj heq ▸ hbase) h

/-! ## URLs that can be written -/

/-- Whether the scheme and the authority of a URL can be read off its written form. -/
structure IsWritable (url : Url) : Prop where
  isScheme : IsScheme url.scheme
  isWithin : ∀ a, url.authority = some a → IsWithin a.print
  rooted : url.authority ≠ none → ∃ segments, url.path = .rooted segments

theorem IsWritable.isWithin_host {base : Url} (h : base.IsWritable) {host : Host}
    (hhost : base.host? = some host) : IsWithin host.print := by
  obtain ⟨a, ha, hhost⟩ := Option.bind_eq_some_iff.1 hhost
  exact isWithin_of_isWithin_print (h.isWithin a ha) hhost

/-- What is read can be written if what it is relative to can. -/
theorem IsRead.isWritable {base : Option Url} {url : Url} (h : IsRead base url)
    (hbase : ∀ url, base = some url → url.IsWritable) : url.IsWritable := by
  cases h with
  | authority hscheme hread =>
    exact ⟨hscheme, fun a ha => Option.some.inj ha ▸ isWithin_readAuthority hread, fun _ => ⟨_, rfl⟩⟩
  | root hscheme => exact ⟨hscheme, by simp [complete], by simp [complete]⟩
  | flat hscheme hhead => exact ⟨hscheme, by simp [complete], by simp [complete]⟩
  | file hhost hbefore =>
    refine ⟨isScheme_fileScheme, ?_, fun _ => ⟨_, rfl⟩⟩
    rintro a ⟨⟩
    refine isWithin_print_authority isWithin_nil isWithin_nil fun read hread => ?_
    rcases hhost read hread with ⟨name, hname⟩ | ⟨url, heq, hsome⟩
    · exact isWithin_readFileHost hname
    · exact (hbase url heq).isWithin_host hsome
  | @path url before text heq hbefore =>
    exact ⟨(hbase url heq).isScheme, (hbase url heq).isWithin, fun _ => ⟨_, rfl⟩⟩
  | @suffix url text heq =>
    exact ⟨(hbase url heq).isScheme, (hbase url heq).isWithin, (hbase url heq).rooted⟩
  | @fragment url text heq =>
    exact ⟨(hbase url heq).isScheme, (hbase url heq).isWithin, (hbase url heq).rooted⟩
  | @whole url heq =>
    exact ⟨(hbase url heq).isScheme, (hbase url heq).isWithin, (hbase url heq).rooted⟩

theorem isWritable_parse {text : List Char} {url : Url} (h : parse text = .ok url) :
    url.IsWritable :=
  (isRead_parse h).isWritable (by simp)

theorem isWritable_join {base url : Url} (hbase : base.IsWritable) {text : List Char}
    (h : base.join text = .ok url) : url.IsWritable :=
  (isRead_join hbase.isScheme h).isWritable fun _ heq => Option.some.inj heq ▸ hbase

end Url

end FlowPeers
