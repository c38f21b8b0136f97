import FlinkSteward.Net.Host
import FlinkSteward.Proofs.Text.Case
import FlinkSteward.Proofs.Text.Digits
import FlinkSteward.Proofs.Text.Split
import Mathlib.Data.List.TakeWhile

/-!
# Which addresses start with a host

An address that starts with the name of a host and an optional port is accepted, unless the port is
written with more digits than can be read. Others are accepted too: behind a user name, with tabs and
line ends anywhere in them, with a Kelvin sign for a `k`, and with a name in brackets that looks like
an address of a future version.

## Key results

- `Host.IsName`, `Host.IsPort`: names and ports as they should be
- `Host.isName_lowered_iff`: the hosts whose lower-case form is a name
- `Host.check_eq_ok_iff`: the parts that an accepted address is taken apart into
- `host_accepted_iff`: the addresses that are accepted, and those of them that start with a host
-/

namespace FlinkSteward

namespace Host

open FlinkSteward.Text

/-! ## Names -/

/-- The name of a host: labels with points between them, and any number of points behind. -/
def IsName (cs : List Char) : Prop :=
  ∃ (parts : List (List Char)) (points : Nat), parts ≠ [] ∧ (∀ l ∈ parts, isLabel l = true) ∧
    cs = List.intercalate ['.'] parts ++ List.replicate points '.'

theorem isLabel_iff {cs : List Char} : isLabel cs = true ↔
    1 ≤ cs.length ∧ cs.length ≤ 63 ∧ (∀ c ∈ cs, isLabelChar c = true) ∧ cs.head? ≠ some '-' ∧
      cs.getLast? ≠ some '-' := by
  simp [isLabel, and_assoc]

theorem not_mem_of_isLabel {cs : List Char} (h : isLabel cs = true) : '.' ∉ cs :=
  fun hmem => absurd ((isLabel_iff.1 h).2.2.1 '.' hmem) (by decide)

/-- A text of labels ends with a character of a label. -/
theorem reverse_intercalate {parts : List (List Char)} (hne : parts ≠ [])
    (hlabels : ∀ l ∈ parts, isLabel l = true) :
    ∃ c rest, (List.intercalate ['.'] parts).reverse = c :: rest ∧ c ≠ '.' := by
  induction parts with
  | nil => exact absurd rfl hne
  | cons l others ih =>
    obtain ⟨hl, hothers⟩ := List.forall_mem_cons.1 hlabels
    -- only the last label is at the end of the name
    cases others with
    | nil =>
      rw [List.intercalate_singleton]
      cases hrev : l.reverse with
      | nil =>
        have hlength := (isLabel_iff.1 hl).1
        rw [List.reverse_eq_nil_iff.1 hrev] at hlength
        exact absurd hlength (by decide)
      | cons c rest =>
        refine ⟨c, rest, rfl, ?_⟩
        rintro rfl
        exact not_mem_of_isLabel hl (List.mem_reverse.1 (hrev ▸ List.mem_cons_self))
    | cons m more =>
      obtain ⟨c, rest, hrev, hc⟩ := ih (List.cons_ne_nil m more) hothers
      refine ⟨c, rest ++ ['.'] ++ l.reverse, ?_, hc⟩
      rw [List.intercalate_cons_cons, List.reverse_append, List.reverse_append, hrev]
      simp

/-- The `labels` of a text are all well-formed exactly when it `IsName`. -/
theorem labels_iff_isName {cs : List Char} :
    (∀ l ∈ labels cs, isLabel l = true) ↔ IsName cs := by
  rw [labels, splitAt_eq_splitOn]
  constructor
  · intro hlabels
    refine ⟨_, (cs.reverse.takeWhile (· = '.')).length, List.splitOn_ne_nil _ _, hlabels, ?_⟩
    have hpoints : (cs.reverse.takeWhile (· = '.')).reverse =
        List.replicate (cs.reverse.takeWhile (· = '.')).length '.' := by
      refine List.eq_replicate_iff.2 ⟨List.length_reverse, fun c hc => ?_⟩
      have hpoint := List.mem_takeWhile_imp (List.mem_reverse.1 hc)
      exact of_decide_eq_true hpoint
    rw [List.intercalate_splitOn, ← hpoints, ← List.reverse_append,
      List.takeWhile_append_dropWhile, List.reverse_reverse]
  · rintro ⟨parts, points, hne, hlabels, rfl⟩
    -- the points at the end are dropped, and no more, since a label does not end with one
    obtain ⟨c, rest, hrev, hc⟩ := reverse_intercalate hne hlabels
    rw [List.reverse_append, List.reverse_replicate, List.dropWhile_append_of_pos, hrev,
      List.dropWhile_cons_of_neg, ← hrev, List.reverse_reverse, List.splitOn_intercalate]
    · exact hlabels
    · exact fun l hl => not_mem_of_isLabel (hlabels l hl)
    · exact hne
    · simpa using hc
    · exact fun a ha => decide_eq_true (List.eq_of_mem_replicate ha)

/-! ## Names in lower case -/

/-- `lowerAsciiChar` moves letters to letters. -/
theorem lowerAsciiChar_cases (c : Char) : lowerAsciiChar c = c ∨
    65 ≤ c.toNat ∧ c.toNat ≤ 90 ∧ (lowerAsciiChar c).toNat = c.toNat + 32 := by
  rw [lowerAsciiChar]
  split
  · rename_i hupper
    have hfirst : 65 ≤ c.toNat := hupper.1
    have hlast : c.toNat ≤ 90 := hupper.2
    exact .inr ⟨hfirst, hlast, toNat_ofNat_ascii (by omega)⟩
  · exact .inl rfl

theorem lowerAsciiChar_eq_iff {c d : Char} (hd : d.toNat < 65) : lowerAsciiChar c = d ↔ c = d := by
  rcases lowerAsciiChar_cases c with hsame | ⟨hfirst, hlast, hmoved⟩
  · rw [hsame]
  · refine iff_of_false (fun h => ?_) (fun h => ?_)
    · rw [h] at hmoved
      omega
    · rw [h] at hfirst
      omega

theorem isLabelChar_iff {c : Char} : isLabelChar c = true ↔
    (97 ≤ c.toNat ∧ c.toNat ≤ 122) ∨ (65 ≤ c.toNat ∧ c.toNat ≤ 90) ∨
      (48 ≤ c.toNat ∧ c.toNat ≤ 57) ∨ c.toNat = 45 := by
  have hhyphen : c = '-' ↔ c.toNat = 45 := by
    refine ⟨fun h => by rw [h]; rfl, fun h => ?_⟩
    rw [← Char.ofNat_toNat c, h]
  simp only [isLabelChar, isAsciiDigit, Bool.or_eq_true, Bool.and_eq_true, decide_eq_true_eq,
    hhyphen, or_assoc]
  rfl

theorem isLabelChar_lowerAsciiChar (c : Char) : isLabelChar (lowerAsciiChar c) = isLabelChar c := by
  rcases lowerAsciiChar_cases c with hsame | ⟨hfirst, hlast, hmoved⟩
  · rw [hsame]
  · rw [isLabelChar_iff.2 (.inl (by omega)), isLabelChar_iff.2 (.inr (.inl (by omega)))]

theorem isLabel_map_lowerAsciiChar (cs : List Char) :
    isLabel (cs.map lowerAsciiChar) = isLabel cs := by
  -- a hyphen at either end is neither gained nor lost
  have hend (o : Option Char) : o.map lowerAsciiChar = some '-' ↔ o = some '-' := by
    cases o with
    | none => simp
    | some c => simp [lowerAsciiChar_eq_iff (by decide : '-'.toNat < 65)]
  simp only [isLabel, List.length_map, List.all_map, Function.comp_def, isLabelChar_lowerAsciiChar,
    List.head?_map, List.getLast?_map, ne_eq, hend]

theorem splitAt_map {f : Char → Char} {sep : Char} (hsep : ∀ c, f c = sep ↔ c = sep)
    (cs : List Char) : splitAt sep (cs.map f) = (splitAt sep cs).map (List.map f) := by
  induction cs with
  | nil => rfl
  | cons c rest ih =>
    rw [List.map_cons, splitAt, splitAt, ih]
    by_cases hc : c = sep
    · rw [if_pos ((hsep c).2 hc), if_pos hc]
      rfl
    · rw [if_neg (mt (hsep c).1 hc), if_neg hc]
      cases splitAt sep rest <;> rfl

theorem labels_map_lowerAsciiChar (cs : List Char) :
    labels (cs.map lowerAsciiChar) = (labels cs).map (List.map lowerAsciiChar) := by
  have hpoint (c : Char) : lowerAsciiChar c = '.' ↔ c = '.' := lowerAsciiChar_eq_iff (by decide)
  rw [labels, labels, ← List.map_reverse, List.dropWhile_map, ← List.map_reverse, splitAt_map hpoint]
  simp only [Function.comp_def, hpoint]

theorem isName_map_lowerAsciiChar {cs : List Char} :
    IsName (cs.map lowerAsciiChar) ↔ IsName cs := by
  rw [← labels_iff_isName, ← labels_iff_isName, labels_map_lowerAsciiChar, List.forall_mem_map]
  simp only [isLabel_map_lowerAsciiChar]

/-- What is in a text that is put together is in its parts, or between them. -/
theorem mem_intercalate {parts : List (List Char)} {c : Char}
    (h : c ∈ List.intercalate ['.'] parts) : c = '.' ∨ ∃ l ∈ parts, c ∈ l := by
  induction parts with
  | nil => exact absurd h List.not_mem_nil
  | cons l others ih =>
    cases others with
    | nil => exact .inr ⟨l, List.mem_cons_self, by rwa [List.intercalate_singleton] at h⟩
    | cons m more =>
      rw [List.intercalate_cons_cons, List.append_assoc, List.mem_append, List.singleton_append,
        List.mem_cons] at h
      rcases h with hfirst | hpoint | hrest
      · exact .inr ⟨l, List.mem_cons_self, hfirst⟩
      · exact .inl hpoint
      · exact (ih hrest).imp_right fun ⟨n, hn, hc⟩ => ⟨n, List.mem_cons_of_mem l hn, hc⟩

/-- What `IsName` consists of characters of labels, and points. -/
theorem IsName.chars {cs : List Char} (h : IsName cs) :
    ∀ c ∈ cs, isLabelChar c = true ∨ c = '.' := by
  obtain ⟨parts, points, -, hlabels, rfl⟩ := h
  intro c hc
  rcases List.mem_append.1 hc with hparts | hpoint
  · rcases mem_intercalate hparts with hpoint | ⟨l, hl, hmem⟩
    · exact .inr hpoint
    · exact .inl ((isLabel_iff.1 (hlabels l hl)).2.2.1 c hmem)
  · exact .inr (List.eq_of_mem_replicate hpoint)

theorem IsName.ascii {cs : List Char} (h : IsName cs) : ∀ c ∈ cs, c.toNat < 0x80 := by
  intro c hc
  rcases h.chars c hc with hlabel | rfl
  · have hbounds := isLabelChar_iff.1 hlabel
    omega
  · decide

theorem IsName.not_mem {cs : List Char} {c : Char} (h : IsName cs)
    (hc : isLabelChar c = false ∧ c ≠ '.') : c ∉ cs := by
  intro hmem
  rcases h.chars c hmem with hlabel | hpoint
  · exact absurd (hlabel.symm.trans hc.1) (by decide)
  · exact hc.2 hpoint

/-- The `lowered` host `IsName` exactly when the host is one, apart from Kelvin signs. -/
theorem isName_lowered_iff {host : List Char} :
    IsName (lowered host) ↔ IsName (host.map plainChar) := by
  rw [lowered]
  cases hbreak : breakAt? '%' host with
  | none =>
    -- the two are the same, but for the letters in lower case, once either is in ASCII
    have hsame (h : ∀ c ∈ host, c.toNat < 0x80 ∨ c = kelvinSign) :
        IsName (lowerChars [] host) ↔ IsName (host.map plainChar) := by
      rw [lowerChars_eq_map h, isName_map_lowerAsciiChar]
    constructor
    · intro h
      exact (hsame (lowerChars_ascii_iff.1 h.ascii)).1 h
    · intro h
      refine (hsame fun c hc => ?_).2 h
      have hascii := h.ascii _ (List.mem_map_of_mem hc)
      by_cases hkelvin : c = kelvinSign
      · exact .inr hkelvin
      · rw [plainChar, if_neg hkelvin] at hascii
        exact .inl hascii
  | some parts =>
    -- a percent sign is no part of a name
    obtain ⟨name, zone⟩ := parts
    obtain ⟨rfl, -⟩ := breakAt?_eq_some_iff.1 hbreak
    refine iff_of_false (fun h => ?_) (fun h => ?_)
    · exact h.not_mem (c := '%') (by decide) (by simp)
    · exact h.not_mem (c := '%') (by decide) (List.mem_map.2 ⟨'%', by simp, by decide +kernel⟩)

/-! ## Ports -/

/-- A port: nothing, or the digits of a number up to 65535. -/
def IsPort (cs : List Char) : Prop :=
  Digits cs ∧ digitsValue cs ≤ 65535

theorem checkPort_eq_ok_iff {port : List Char} :
    checkPort port = .ok () ↔ IsPort port ∧ port.length ≤ maxPortDigits := by
  rw [checkPort]
  cases port with
  | nil => exact iff_of_true rfl ⟨⟨Digits.nil, by decide⟩, by decide⟩
  | cons c rest =>
    rw [if_neg (by simp)]
    -- the digits are checked first, then how many there are, and their value last
    by_cases hdigits : (c :: rest).all isAsciiDigit = true
    · rw [if_neg (by simp [hdigits])]
      by_cases hlong : maxPortDigits < (c :: rest).length
      · rw [if_pos hlong]
        exact iff_of_false (fun h => nomatch h) fun h => absurd h.2 (by omega)
      · rw [if_neg hlong]
        have hall : Digits (c :: rest) := List.all_eq_true.1 hdigits
        by_cases hlarge : 65535 < digitsValue (c :: rest)
        · rw [if_pos hlarge]
          exact iff_of_false (fun h => nomatch h) fun h => absurd h.1.2 (by omega)
        · rw [if_neg hlarge]
          exact iff_of_true rfl ⟨⟨hall, by omega⟩, by omega⟩
    · rw [if_pos (by rw [Bool.eq_false_iff.2 hdigits]; rfl)]
      exact iff_of_false (fun h => nomatch h) fun h => hdigits (List.all_eq_true.2 h.1.1)

/-! ## Parts of addresses -/

/-- A host without brackets, with a port behind it or without one. -/
inductive Plainly (host : List Char) : List Char → List Char → Prop where
  | alone : Plainly host [] host
  | withPort (port : List Char) : Plainly host port (host ++ ':' :: port)

/-- A host behind a bracket, which may be left open. -/
inductive Bracketed (host : List Char) : List Char → List Char → Prop where
  | unclosed : Bracketed host [] ('[' :: host)
  | closed : Bracketed host [] ('[' :: host ++ [']'])
  | withPort (port : List Char) : Bracketed host port ('[' :: host ++ ']' :: ':' :: port)

theorem Plainly.mem_of_mem {host port rest : List Char} (h : Plainly host port rest) {c : Char}
    (hc : c ∈ host) : c ∈ rest := by
  cases h with
  | alone => exact hc
  | withPort => exact List.mem_append_left _ hc

theorem Bracketed.mem_open {host port rest : List Char} (h : Bracketed host port rest) :
    '[' ∈ rest := by
  cases h <;> exact List.mem_cons_self

theorem partition_eq_iff {sep : Char} {cs front back : List Char} :
    partition sep cs = (front, back) ↔
      sep ∉ front ∧ (cs = front ++ sep :: back ∨ cs = front ∧ back = []) := by
  rw [partition]
  cases hbreak : breakAt? sep cs with
  | none =>
    have hnot := breakAt?_eq_none_iff.1 hbreak
    rw [Option.getD_none, Prod.mk.injEq]
    constructor
    · rintro ⟨rfl, rfl⟩
      exact ⟨hnot, .inr ⟨rfl, rfl⟩⟩
    · rintro ⟨-, rfl | ⟨rfl, rfl⟩⟩
      · exact absurd (by simp) hnot
      · exact ⟨rfl, rfl⟩
  | some parts =>
    obtain ⟨a, b⟩ := parts
    obtain ⟨rfl, hnot⟩ := breakAt?_eq_some_iff.1 hbreak
    rw [Option.getD_some]
    constructor
    · rintro ⟨⟩
      exact ⟨hnot, .inl rfl⟩
    · -- the first separator ends a front without one
      rintro ⟨hfront, hcs | ⟨rfl, -⟩⟩
      · rw [hcs, breakAt?_append hfront] at hbreak
        exact (Option.some.inj hbreak).symm
      · exact absurd (by simp) hfront

theorem partition_colon_iff {host port cs : List Char} (h : ':' ∉ host) :
    partition ':' cs = (host, port) ↔ Plainly host port cs := by
  rw [partition_eq_iff]
  constructor
  · rintro ⟨-, rfl | ⟨rfl, rfl⟩⟩
    · exact .withPort port
    · exact .alone
  · rintro (_ | port)
    · exact ⟨h, .inr ⟨rfl, rfl⟩⟩
    · exact ⟨h, .inl rfl⟩

theorem hostAndPort_eq_iff {authority rest : List Char} :
    hostAndPort authority = rest ↔
      '@' ∉ rest ∧ (authority = rest ∨ ∃ user, authority = user ++ '@' :: rest) := by
  rw [hostAndPort]
  cases hbreak : breakAtLast? '@' authority with
  | none =>
    have hnot := breakAtLast?_eq_none_iff.1 hbreak
    constructor
    · rintro rfl
      exact ⟨hnot, .inl rfl⟩
    · rintro ⟨-, rfl | ⟨user, rfl⟩⟩
      · rfl
      · exact absurd (by simp) hnot
  | some parts =>
    obtain ⟨user, host⟩ := parts
    obtain ⟨rfl, hnot⟩ := breakAtLast?_eq_some_iff.1 hbreak
    constructor
    · rintro rfl
      exact ⟨hnot, .inr ⟨user, rfl⟩⟩
    · -- behind the last sign, and behind no other, there is none left
      rintro ⟨hrest, rfl | ⟨other, hother⟩⟩
      · exact absurd (by simp) hrest
      · rw [hother, breakAtLast?_eq_some_iff.2 ⟨rfl, hrest⟩] at hbreak
        exact (congrArg Prod.snd (Option.some.inj hbreak)).symm

/-! ## What is checked -/

theorem colon_mem_of_isGrouped {cs : List Char} (h : Address.isGrouped cs = true) : ':' ∈ cs := by
  refine Classical.byContradiction fun hnot => ?_
  have hparts : splitAt ':' cs = [cs] := by
    have hjoined := List.splitOn_intercalate ':' (List.forall_mem_singleton.2 hnot)
      (List.cons_ne_nil cs [])
    rwa [List.intercalate_singleton, ← splitAt_eq_splitOn] at hjoined
  rw [Address.isGrouped, hparts, if_pos (by simp)] at h
  exact nomatch h

/-- An address of eight groups (`isIPv6`) has colons in it. -/
theorem colon_mem_of_isIPv6 {cs : List Char} (h : Address.isIPv6 cs = true) : ':' ∈ cs := by
  rw [Address.isIPv6] at h
  cases hbreak : breakAt? '%' cs with
  | none =>
    rw [hbreak] at h
    exact colon_mem_of_isGrouped h
  | some parts =>
    rw [hbreak] at h
    obtain ⟨address, zone⟩ := parts
    obtain ⟨rfl, -⟩ := breakAt?_eq_some_iff.1 hbreak
    exact List.mem_append_left _ (colon_mem_of_isGrouped (Bool.and_eq_true_iff.1 h).2)

/-- A host that looks like an address of a future version. -/
def IsFuture (host : List Char) : Prop :=
  host.head? = some 'v' ∧ isFutureAddress host = true

/-- Without a colon, `checkInside` accepts nothing but an address of a future version. -/
theorem checkInside_eq_ok_iff {host : List Char} (h : ':' ∉ host) :
    checkInside host = .ok () ↔ IsFuture host := by
  rw [checkInside, IsFuture]
  by_cases hfirst : host.head? = some 'v'
  · rw [if_pos hfirst]
    by_cases hfuture : isFutureAddress host = true
    · rw [if_pos hfuture]
      exact iff_of_true rfl ⟨hfirst, hfuture⟩
    · rw [if_neg hfuture]
      exact iff_of_false (fun h => nomatch h) fun h => hfuture h.2
  · rw [if_neg hfirst, if_neg (mt colon_mem_of_isIPv6 h)]
    refine iff_of_false (fun h => ?_) fun h => hfirst h.1
    split at h <;> exact nomatch h

theorem checkAuthority_eq_ok_iff {authority : List Char} :
    checkAuthority authority = .ok () ↔
      (∀ c ∈ authority, c.toNat ∉ disguises) ∧
      (('[' ∉ authority ∧ ']' ∉ authority) ∨
        ('[' ∈ authority ∧ ']' ∈ authority ∧
          checkBrackets (hostAndPort authority) = .ok ())) := by
  have hany : (authority.any fun c => disguises.contains c.toNat) = false ↔
      ∀ c ∈ authority, c.toNat ∉ disguises := by
    simp [List.any_eq_false]
  rw [← hany, ← List.contains_iff_mem, ← List.contains_iff_mem, checkAuthority]
  cases authority.contains '[' <;> cases authority.contains ']' <;>
    cases (authority.any fun c => disguises.contains c.toNat) <;>
    cases checkBrackets (hostAndPort authority) <;>
    simp [bind, Except.bind, pure, Except.pure, throw, throwThe, MonadExceptOf.throw]

/-- `check` accepts an address when each part of it is. -/
theorem check_eq_ok_iff_parts {address : String} :
    check address = .ok () ↔
      checkAuthority (authority address.toList) = .ok () ∧
      ∃ host port, split (hostAndPort (authority address.toList)) = (host, port) ∧
        host ≠ [] ∧ checkPort port = .ok () ∧ IsName (lowered host) := by
  have hfound (host : List Char) : IsName (lowered host) ↔
      (labels (lowered host)).find? (fun l => !isLabel l) = none := by
    rw [← labels_iff_isName, List.find?_eq_none]
    simp
  rw [check]
  -- the checks are made in this order, and the first fault ends them
  rcases checkAuthority (authority address.toList) with fault | ⟨⟨⟩⟩
  · simp [bind, Except.bind]
  rcases split (hostAndPort (authority address.toList)) with ⟨host, port⟩
  simp only [bind, Except.bind, Prod.mk.injEq, hfound, true_and, existsAndEq]
  cases host with
  | nil => simp [throw, throwThe, MonadExceptOf.throw]
  | cons c rest =>
    rw [if_neg (by simp)]
    rcases checkPort port with fault | ⟨⟨⟩⟩
    · simp
    · cases (labels (lowered (c :: rest))).find? fun l => !isLabel l with
      | none => simp [pure, Except.pure]
      | some label => simp [throw, throwThe, MonadExceptOf.throw]

/-! ## Accepted addresses -/

section Written

variable {host port rest : List Char} (hname : IsName (host.map plainChar)) (hport : IsPort port)

include hname

theorem host_ne_nil : host ≠ [] := by
  rintro rfl
  have hlabel : isLabel [] = true := labels_iff_isName.2 hname [] List.mem_cons_self
  exact nomatch hlabel

/-- A host has no delimiters in it. -/
theorem not_mem_host {c : Char} (hc : isLabelChar c = false ∧ c ≠ '.' ∧ c ≠ kelvinSign) :
    c ∉ host := by
  intro hmem
  have hplain : plainChar c = c := if_neg hc.2.2
  exact hname.not_mem ⟨hc.1, hc.2.1⟩ (List.mem_map.2 ⟨c, hmem, hplain⟩)

/-- Without brackets, `split` gives as host what stands before a colon. -/
theorem split_eq_iff_plainly (hopen : '[' ∉ rest) :
    split rest = (host, port) ↔ Plainly host port rest := by
  rw [split, breakAt?_eq_none_iff.2 hopen]
  exact partition_colon_iff (not_mem_host hname (by decide +kernel))

theorem checkBrackets_plainly (hopen : '[' ∉ rest) (h : split rest = (host, port)) :
    checkBrackets rest = .ok () ↔ IsFuture host := by
  rw [split, breakAt?_eq_none_iff.2 hopen] at h
  rw [checkBrackets, breakAt?_eq_none_iff.2 hopen]
  simp only [h]
  exact checkInside_eq_ok_iff (not_mem_host hname (by decide +kernel))

include hport

theorem Plainly.not_mem_open (h : Plainly host port rest) : '[' ∉ rest := by
  have hhost : '[' ∉ host := not_mem_host hname (by decide +kernel)
  cases h with
  | alone => exact hhost
  | withPort =>
    have hdigits : '[' ∉ port := fun hmem => absurd (hport.1 '[' hmem) (by decide)
    simp [hhost, hdigits]

omit hport in
/-- Behind a bracket, `split` gives as host what stands before the closing one, and a port follows. -/
theorem bracketed_iff (hopen : '[' ∈ rest) :
    (split rest = (host, port) ∧ checkBrackets rest = .ok ()) ↔
      IsFuture host ∧ Bracketed host port rest := by
  have hcolon : ':' ∉ host := not_mem_host hname (by decide +kernel)
  have hclose : ']' ∉ host := not_mem_host hname (by decide +kernel)
  constructor
  · rintro ⟨hsplit, hcheck⟩
    obtain ⟨⟨before, inside⟩, hbreak⟩ := Option.ne_none_iff_exists'.1
      (mt breakAt?_eq_none_iff.1 (not_not_intro hopen))
    rcases hinside : partition ']' inside with ⟨name, after⟩
    simp only [split, hbreak, hinside] at hsplit
    obtain ⟨rfl, rfl⟩ := Prod.mk.inj hsplit
    simp only [checkBrackets, hbreak, hinside] at hcheck
    obtain ⟨rfl, -⟩ := breakAt?_eq_some_iff.1 hbreak
    cases before with
    | cons c more =>
      -- nothing may stand in front of the bracket
      exact nomatch hcheck
    | nil =>
      obtain ⟨-, hparts⟩ := partition_eq_iff.1 hinside
      cases after with
      | nil =>
        refine ⟨(checkInside_eq_ok_iff hcolon).1 hcheck, ?_⟩
        rcases hparts with rfl | ⟨rfl, -⟩
        · exact .closed
        · exact .unclosed
      | cons d more =>
        -- only a colon may follow the closing bracket
        by_cases hd : d = ':'
        · subst hd
          obtain rfl | ⟨-, hnil⟩ := hparts
          · exact ⟨(checkInside_eq_ok_iff hcolon).1 hcheck, .withPort more⟩
          · exact nomatch hnil
        · rw [if_neg (by simp), if_pos (by simpa using hd)] at hcheck
          exact nomatch hcheck
  · rintro ⟨hfuture, hwritten⟩
    have hinside : checkInside host = .ok () := (checkInside_eq_ok_iff hcolon).2 hfuture
    have hbreak (inside : List Char) : breakAt? '[' ('[' :: inside) = some ([], inside) := if_pos rfl
    cases hwritten with
    | unclosed =>
      have hparts : partition ']' host = (host, []) :=
        partition_eq_iff.2 ⟨hclose, .inr ⟨rfl, rfl⟩⟩
      rw [split, checkBrackets, hbreak]
      simp only [hparts]
      exact ⟨rfl, hinside⟩
    | closed =>
      have hparts : partition ']' (host ++ [']']) = (host, []) :=
        partition_eq_iff.2 ⟨hclose, .inl rfl⟩
      rw [split, checkBrackets, List.cons_append, hbreak]
      simp only [hparts]
      exact ⟨rfl, hinside⟩
    | withPort =>
      have hparts : partition ']' (host ++ ']' :: ':' :: port) = (host, ':' :: port) :=
        partition_eq_iff.2 ⟨hclose, .inl rfl⟩
      rw [split, checkBrackets, List.cons_append, hbreak]
      simp only [hparts]
      exact ⟨rfl, hinside⟩

end Written

/-- Takes an address apart into a host and a port: behind a user name, in brackets or without them, with
tabs and line ends left out, and without characters that stand for delimiters. Brackets may also be in
the user name; wherever they are, they make the host look like an address of a future version. -/
def Reads (address : String) (host port : List Char) : Prop :=
  (∀ c ∈ authority address.toList, c.toNat ∉ disguises) ∧
  ∃ rest, '@' ∉ rest ∧
    (authority address.toList = rest ∨ ∃ user, authority address.toList = user ++ '@' :: rest) ∧
    ('[' ∉ authority address.toList ∧ ']' ∉ authority address.toList ∧ Plainly host port rest ∨
      '[' ∈ authority address.toList ∧ ']' ∈ authority address.toList ∧ IsFuture host ∧
        (Plainly host port rest ∨ Bracketed host port rest))

/-- An address is accepted exactly when it is taken apart into a name, with Kelvin signs for some `k`,
and a port that is not too long. -/
theorem check_eq_ok_iff {address : String} :
    check address = .ok () ↔ ∃ host port, Reads address host port ∧
      IsName (host.map plainChar) ∧ IsPort port ∧ port.length ≤ maxPortDigits := by
  rw [check_eq_ok_iff_parts, checkAuthority_eq_ok_iff]
  simp only [isName_lowered_iff, checkPort_eq_ok_iff, Reads]
  generalize authority address.toList = a
  constructor
  · rintro ⟨⟨hclear, hbrackets⟩, host, port, hsplit, -, ⟨hport, hlength⟩, hname⟩
    obtain ⟨huser, hrest⟩ := hostAndPort_eq_iff.1 (rfl : hostAndPort a = hostAndPort a)
    refine ⟨host, port, ⟨hclear, hostAndPort a, huser, hrest, ?_⟩, hname, hport, hlength⟩
    -- a host within brackets is read up to the closing one, any other up to the colon
    by_cases hopen : '[' ∈ hostAndPort a
    · obtain ⟨hnone, -⟩ | ⟨hopens, hcloses, hcheck⟩ := hbrackets
      · rcases hrest with heq | ⟨user, heq⟩ <;> rw [heq] at hnone
        · exact absurd hopen hnone
        · exact absurd (List.mem_append_right _ (List.mem_cons_of_mem _ hopen)) hnone
      · obtain ⟨hfuture, hwritten⟩ := (bracketed_iff hname hopen).1 ⟨hsplit, hcheck⟩
        exact .inr ⟨hopens, hcloses, hfuture, .inr hwritten⟩
    · have hwritten := (split_eq_iff_plainly hname hopen).1 hsplit
      refine hbrackets.imp (fun h => ⟨h.1, h.2, hwritten⟩) fun ⟨hopens, hcloses, hcheck⟩ => ?_
      exact ⟨hopens, hcloses, (checkBrackets_plainly hname hopen hsplit).1 hcheck, .inl hwritten⟩
  · rintro ⟨host, port, ⟨hclear, rest, huser, hrest, hwritten⟩, hname, hport, hlength⟩
    obtain rfl := hostAndPort_eq_iff.2 ⟨huser, hrest⟩
    -- a host that is a name is not empty, so that the check for a missing one is silent
    have hne := host_ne_nil hname
    obtain ⟨hopens, hcloses, hplainly⟩ | ⟨hopens, hcloses, hfuture, hplainly | hbracketed⟩ := hwritten
    · have hsplit := (split_eq_iff_plainly hname (hplainly.not_mem_open hname hport)).2 hplainly
      exact ⟨⟨hclear, .inl ⟨hopens, hcloses⟩⟩, host, port, hsplit, hne, ⟨hport, hlength⟩, hname⟩
    · have hopen := hplainly.not_mem_open hname hport
      have hsplit := (split_eq_iff_plainly hname hopen).2 hplainly
      have hcheck := (checkBrackets_plainly hname hopen hsplit).2 hfuture
      exact ⟨⟨hclear, .inr ⟨hopens, hcloses, hcheck⟩⟩, host, port, hsplit, hne, ⟨hport, hlength⟩,
        hname⟩
    · have hopen : '[' ∈ hostAndPort a := hbracketed.mem_open
      obtain ⟨hsplit, hcheck⟩ := (bracketed_iff hname hopen).2 ⟨hfuture, hbracketed⟩
      exact ⟨⟨hclear, .inr ⟨hopens, hcloses, hcheck⟩⟩, host, port, hsplit, hne, ⟨hport, hlength⟩,
        hname⟩

/-! ## Addresses that start with a host -/

/-- The characters of an address before the first `/`, `?` or `#`. -/
def front (address : String) : List Char :=
  address.toList.takeWhile fun c => c ≠ '/' ∧ c ≠ '?' ∧ c ≠ '#'

/-- The `front` of an address is the name of a host (`IsName`), with this port (`IsPort`). -/
def StartsWith (address : String) (host port : List Char) : Prop :=
  IsName host ∧ IsPort port ∧ Plainly host port (front address)

/-- Characters that no host and no port has in it, and that are accepted in front of an address. -/
def strays : List Char :=
  ['\t', '\r', '\n', '@', '[', ']', kelvinSign]

/-- What ends a text is not left out of it. -/
theorem takeWhile_filter {front kept : Char → Bool} (h : ∀ c, kept c = false → front c = true)
    (cs : List Char) : (cs.filter kept).takeWhile front = (cs.takeWhile front).filter kept := by
  induction cs with
  | nil => rfl
  | cons c rest ih =>
    cases hkept : kept c with
    | true => cases hfront : front c <;> simp [hkept, hfront, ih]
    | false => simp [hkept, h c hkept, ih]

theorem authority_eq_filter (address : String) : authority address.toList =
    (front address).filter fun c => c ≠ '\t' ∧ c ≠ '\r' ∧ c ≠ '\n' := by
  refine takeWhile_filter (fun c hc => decide_eq_true ?_) _
  have hspace := of_decide_eq_false hc
  refine ⟨?_, ?_, ?_⟩ <;> rintro rfl <;> exact hspace (by decide)

theorem authority_eq_front {address : String} (h : ∀ c ∈ front address, c ∉ strays) :
    authority address.toList = front address := by
  rw [authority_eq_filter]
  refine List.filter_eq_self.2 fun c hc => decide_eq_true ?_
  have hstray := h c hc
  refine ⟨?_, ?_, ?_⟩ <;> rintro rfl <;> exact hstray (by decide +kernel)

theorem map_plainChar {cs : List Char} (h : kelvinSign ∉ cs) : cs.map plainChar = cs := by
  refine List.map_congr_left (g := id) (fun c hc => if_neg ?_) |>.trans (List.map_id cs)
  rintro rfl
  exact h hc

section StartsWith

variable {address : String} {host port : List Char} (h : StartsWith address host port)

include h

/-- Hosts and ports that an address `StartsWith` consist of few characters. -/
theorem StartsWith.chars : ∀ c ∈ front address, isLabelChar c = true ∨ c = '.' ∨ c = ':' := by
  obtain ⟨hname, hport, hwritten⟩ := h
  have hhost : ∀ c ∈ host, isLabelChar c = true ∨ c = '.' ∨ c = ':' := fun c hc =>
    (hname.chars c hc).imp_right .inl
  generalize front address = cs at hwritten
  cases hwritten with
  | alone => exact hhost
  | withPort =>
    intro c hc
    rcases List.mem_append.1 hc with hmem | hmem
    · exact hhost c hmem
    rcases List.mem_cons.1 hmem with hcolon | hdigit
    · exact .inr (.inr hcolon)
    · refine .inl ?_
      simp only [isLabelChar, hport.1 c hdigit, Bool.or_true, Bool.true_or]

theorem StartsWith.not_mem_strays : ∀ c ∈ front address, c ∉ strays := by
  have hstrays : (strays.all fun c => ¬ (isLabelChar c = true ∨ c = '.' ∨ c = ':')) = true := by
    decide +kernel
  intro c hc hstray
  exact of_decide_eq_true (List.all_eq_true.1 hstrays c hstray) (h.chars c hc)

theorem StartsWith.reads : Reads address host port := by
  have hclear := h.not_mem_strays
  have hdisguises : ∀ n ∈ disguises, 0x80 ≤ n := by decide
  have hnot {c : Char} (hc : c ∈ strays) : c ∉ front address := fun hmem => hclear c hmem hc
  rw [Reads, authority_eq_front hclear]
  refine ⟨fun c hc hdisguise => ?_, front address, hnot (by decide), .inl rfl,
    .inl ⟨hnot (by decide), hnot (by decide), h.2.2⟩⟩
  have hbeyond := hdisguises _ hdisguise
  rcases h.chars c hc with hlabel | rfl | rfl
  · have hbounds := isLabelChar_iff.1 hlabel
    omega
  · exact absurd hbeyond (by decide)
  · exact absurd hbeyond (by decide)

end StartsWith

end Host

/-- `Host.check` accepts an address exactly when it `Reads` as the name of a host, but for Kelvin
signs, and a port that is not too long. The accepted addresses without `strays` in front are the ones
that `StartsWith` a host and a port that is not too long. -/
theorem host_accepted_iff (address : String) :
    (Host.check address = .ok () ↔ ∃ host port, Host.Reads address host port ∧
      Host.IsName (host.map Text.plainChar) ∧ Host.IsPort port ∧
        port.length ≤ Host.maxPortDigits) ∧
    ((Host.check address = .ok () ∧ ∀ c ∈ Host.front address, c ∉ Host.strays) ↔
      ∃ host port, Host.StartsWith address host port ∧ port.length ≤ Host.maxPortDigits) := by
  refine ⟨Host.check_eq_ok_iff, ?_⟩
  rw [Host.check_eq_ok_iff]
  constructor
  · rintro ⟨⟨host, port, ⟨-, rest, -, huser, hwritten⟩, hname, hport, hlength⟩, hclear⟩
    have hnot {c : Char} (hc : c ∈ Host.strays) : c ∉ Host.front address :=
      fun hmem => hclear c hmem hc
    rw [Host.authority_eq_front hclear] at huser hwritten
    -- neither a user name nor brackets are there
    obtain rfl : Host.front address = rest := by
      rcases huser with hall | ⟨user, hall⟩
      · exact hall
      · exact absurd (by simp [hall]) (hnot (by decide : '@' ∈ Host.strays))
    obtain ⟨-, -, hplainly⟩ | ⟨hopens, -⟩ := hwritten
    · have hkelvin : Text.kelvinSign ∉ host :=
        fun hmem => hnot (by decide +kernel) (hplainly.mem_of_mem hmem)
      rw [Host.map_plainChar hkelvin] at hname
      exact ⟨host, port, ⟨hname, hport, hplainly⟩, hlength⟩
    · exact absurd hopens (hnot (by decide))
  · rintro ⟨host, port, hstarts, hlength⟩
    have hkelvin : Text.kelvinSign ∉ host := hstarts.1.not_mem (by decide +kernel)
    refine ⟨⟨host, port, hstarts.reads, ?_, hstarts.2.1, hlength⟩, hstarts.not_mem_strays⟩
    rw [Host.map_plainChar hkelvin]
    exact hstarts.1

example : Host.check "user@host" = .ok () ∧ Host.check "ho\tst" = .ok () := by decide +kernel
example : Host.check "[v1.host]:8081" = .ok () := by decide +kernel

end FlinkSteward
