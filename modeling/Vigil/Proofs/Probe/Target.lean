import Vigil.Probe.Target

/-!
# Hosts with ports

A connection probe is aimed at a host and a port. `Target.Names` says of a text alone which host
and which port it names; `Target.socket` reads just these texts, and reads the names of them
(`names_exactly`). A host may hold colons, since a port holds none: the last colon of the text is
the one between them.
-/

namespace Vigil

/-! ### Numbers in decimal -/

namespace Decimal

variable {s digits : List Char} {n : Nat}

/-- At least one digit stands for a number, however many zeros are in front. -/
def WritesWhole (digits : List Char) (n : Nat) : Prop :=
  digits ≠ [] ∧ (∀ c ∈ digits, c.isDigit = true) ∧ Nat.ofDigitChars 10 digits 0 = n

/-- The digits of a number, after a plus sign or without one. -/
def WritesUnsigned (s : List Char) (n : Nat) : Prop :=
  ∃ digits, (s = digits ∨ s = '+' :: digits) ∧ WritesWhole digits n

theorem isDigit_iff {c : Char} : c.isDigit = true ↔ '0' ≤ c ∧ c ≤ '9' := by
  simp only [Char.isDigit, Bool.and_eq_true, decide_eq_true_eq]
  rfl

theorem WritesWhole.not_mem (h : WritesWhole digits n) {c : Char} (hc : c.isDigit = false) :
    c ∉ digits :=
  fun hmem => absurd (h.2.1 c hmem) (Bool.eq_false_iff.1 hc)

theorem writesWhole_toDigits (n : Nat) : WritesWhole (Nat.toDigits 10 n) n :=
  ⟨Nat.toDigits_ne_nil, fun _ => Nat.isDigit_of_mem_toDigits (by decide) (by decide),
    Nat.ofDigitChars_toDigits (by decide) (by decide)⟩

theorem foldlM_digits_eq_some_iff {m : Nat} :
    s.foldlM (fun n c =>
        if '0' ≤ c ∧ c ≤ '9' then some (n * 10 + (c.toNat - '0'.toNat)) else none) m = some n ↔
      (∀ c ∈ s, c.isDigit = true) ∧ Nat.ofDigitChars 10 s m = n := by
  induction s generalizing m with
  | nil => simp [Nat.ofDigitChars]
  | cons c s ih =>
      rw [List.foldlM_cons, List.forall_mem_cons, Nat.ofDigitChars_cons, Nat.mul_comm 10 m]
      by_cases hc : c.isDigit = true
      · rw [if_pos (isDigit_iff.1 hc)]
        simpa [hc] using ih
      · rw [if_neg fun h => hc (isDigit_iff.2 h)]
        simp [hc]

theorem whole?_eq_some_iff : whole? s = some n ↔ WritesWhole s n := by
  rw [whole?, WritesWhole]
  split
  · next hempty => simp [List.isEmpty_iff.1 hempty]
  · next hne =>
    rw [foldlM_digits_eq_some_iff]
    exact ⟨fun h => ⟨fun hnil => hne (List.isEmpty_iff.2 hnil), h⟩, fun h => h.2⟩

theorem writesUnsigned_plus : WritesUnsigned ('+' :: digits) n ↔ WritesWhole digits n := by
  constructor
  · rintro ⟨_, rfl | hplus, hwrites⟩
    · exact absurd List.mem_cons_self (hwrites.not_mem (by decide))
    · exact (List.cons.inj hplus).2 ▸ hwrites
  · exact fun h => ⟨digits, .inr rfl, h⟩

theorem writesUnsigned_of_ne (hs : ∀ digits, s ≠ '+' :: digits) :
    WritesUnsigned s n ↔ WritesWhole s n := by
  constructor
  · rintro ⟨digits, rfl | hplus, hwrites⟩
    · exact hwrites
    · exact absurd hplus (hs digits)
  · exact fun h => ⟨s, .inl rfl, h⟩

/-- The numbers that are read are those that are written and below the bound. -/
theorem unsigned?_eq_some_iff {bound : Nat} :
    unsigned? bound s = some n ↔ WritesUnsigned s n ∧ n < bound := by
  have hbelow : ∀ r : Option Nat,
      (r.bind fun m => if m < bound then some m else none) = some n ↔ r = some n ∧ n < bound := by
    intro r
    cases r with
    | none => simp
    | some m =>
        rw [Option.bind_some, Option.some.injEq]
        split <;> simp <;> omega
  unfold unsigned?
  split
  · next digits => rw [writesUnsigned_plus, ← whole?_eq_some_iff, ← hbelow]; rfl
  · next hs => rw [writesUnsigned_of_ne hs, ← whole?_eq_some_iff, ← hbelow]; rfl

end Decimal

/-! ### The last colon -/

namespace Target

variable {s host port : List Char}

theorem cutLastColon_eq_none_iff : cutLastColon s = none ↔ ':' ∉ s := by
  induction s with
  | nil => simp [cutLastColon]
  | cons c s ih =>
      rw [cutLastColon, List.mem_cons, not_or, ← ih]
      split
      · next hcut => simp [hcut]
      · next hcut => simp [hcut, eq_comm]

/-- A text is cut where no colon comes after. -/
theorem cutLastColon_append (host : List Char) (hport : ':' ∉ port) :
    cutLastColon (host ++ ':' :: port) = some (host, port) := by
  induction host with
  | nil => rw [List.nil_append, cutLastColon, cutLastColon_eq_none_iff.2 hport]; rfl
  | cons c host ih => rw [List.cons_append, cutLastColon, ih]

theorem eq_of_cutLastColon (h : cutLastColon s = some (host, port)) :
    s = host ++ ':' :: port ∧ ':' ∉ port := by
  fun_induction cutLastColon s generalizing host with
  | case1 => cases h
  | case2 c rest a b hcut ih =>
      cases h
      obtain ⟨hrest, hport⟩ := ih hcut
      exact ⟨congrArg (c :: ·) hrest, hport⟩
  | case3 rest hcut ih =>
      cases h
      exact ⟨rfl, cutLastColon_eq_none_iff.1 hcut⟩
  | case4 c rest hcut hc ih => cases h

/-! ### Targets -/

/-- A text names a host, which is not empty, and after a colon a port in decimal. -/
def Names (text host : String) (port : Nat) : Prop :=
  ∃ written : String, text = host ++ ":" ++ written ∧ host ≠ "" ∧ ':' ∉ written.toList ∧
    Decimal.WritesUnsigned written.toList port ∧ 1 ≤ port ∧ port ≤ 65535

variable {text name : String} {n : Nat}

theorem socket_of_cut (hcut : cutLastColon text.toList = some (host, port)) (hhost : host ≠ [])
    (hport : Decimal.unsigned? 65536 port = some n) (hn : n ≠ 0) :
    socket text = .ok (String.ofList host, n) := by
  have hfull : ¬host.isEmpty = true := fun h => hhost (List.isEmpty_iff.1 h)
  simp only [socket, hcut, if_neg hfull, hport]

theorem cut_of_socket (h : socket text = .ok (name, n)) :
    ∃ host port, cutLastColon text.toList = some (host, port) ∧ host ≠ [] ∧
      Decimal.unsigned? 65536 port = some n ∧ n ≠ 0 ∧ name = String.ofList host := by
  unfold socket at h
  split at h
  · cases h
  · next host port hcut =>
    split at h
    · cases h
    · next hfull =>
      split at h
      · cases h
      · cases h
      · next m hne hport =>
        cases h
        exact ⟨host, port, hcut, fun hnil => hfull (List.isEmpty_iff.2 hnil), hport, hne, rfl⟩

theorem socket_eq_ok_iff : socket text = .ok (name, n) ↔ Names text name n := by
  constructor
  · intro h
    obtain ⟨host, port, hcut, hhost, hport, hn, rfl⟩ := cut_of_socket h
    obtain ⟨htext, hcolon⟩ := eq_of_cutLastColon hcut
    obtain ⟨hwrites, hlt⟩ := Decimal.unsigned?_eq_some_iff.1 hport
    refine ⟨String.ofList port, ?_, ?_, ?_, ?_, by omega, by omega⟩
    · rw [← String.toList_inj, htext]
      simp
    · simpa using hhost
    · simpa using hcolon
    · simpa using hwrites
  · rintro ⟨written, rfl, hname, hcolon, hwrites, hpos, hle⟩
    have hcut : cutLastColon (name ++ ":" ++ written).toList =
        some (name.toList, written.toList) := by
      have hlist : (name ++ ":" ++ written).toList = name.toList ++ ':' :: written.toList := by simp
      rw [hlist, cutLastColon_append _ hcolon]
    have hport := Decimal.unsigned?_eq_some_iff.2 ⟨hwrites, Nat.lt_succ_of_le hle⟩
    have hhost : name.toList ≠ [] := fun hnil => hname (String.toList_eq_nil_iff.1 hnil)
    rw [socket_of_cut hcut hhost hport (by omega), String.ofList_toList]

/-- The port in decimal, without a sign or zeros in front. -/
theorem names_toString (hname : name ≠ "") (hpos : 1 ≤ n) (hle : n ≤ 65535) :
    Names (name ++ ":" ++ toString n) name n := by
  have hwrites := Decimal.writesWhole_toDigits n
  have hlist : (toString n).toList = Nat.toDigits 10 n := by
    rw [Nat.toString_eq_ofList_toDigits, String.toList_ofList]
  refine ⟨toString n, rfl, hname, ?_, ?_, hpos, hle⟩
  · rw [hlist]
    exact hwrites.not_mem (by decide)
  · rw [hlist]
    exact ⟨_, .inl rfl, hwrites⟩

/-- The texts that are read are those that name a host and a port. They name one host and one
port, which can be written again as a text that names them. -/
theorem names_exactly :
    (∀ text host port, socket text = .ok (host, port) ↔ Names text host port) ∧
    (∀ text host port host' port', Names text host port → Names text host' port' →
      host = host' ∧ port = port') ∧
    (∀ host port, host ≠ "" → 1 ≤ port → port ≤ 65535 →
      socket (host ++ ":" ++ toString port) = .ok (host, port)) ∧
    ∀ text host port, socket text = .ok (host, port) →
      (host ≠ "" ∧ 1 ≤ port ∧ port ≤ 65535) ∧
        socket (host ++ ":" ++ toString port) = .ok (host, port) := by
  refine ⟨fun text host port => socket_eq_ok_iff, ?_, ?_, ?_⟩
  · intro text host port host' port' h h'
    have hread := (socket_eq_ok_iff.2 h).symm.trans (socket_eq_ok_iff.2 h')
    exact Prod.mk.inj (Except.ok.inj hread)
  · intro host port hhost hpos hle
    exact socket_eq_ok_iff.2 (names_toString hhost hpos hle)
  · intro text host port h
    obtain ⟨written, -, hhost, -, -, hpos, hle⟩ := socket_eq_ok_iff.1 h
    exact ⟨⟨hhost, hpos, hle⟩, socket_eq_ok_iff.2 (names_toString hhost hpos hle)⟩

/-- A host in brackets, and a port with a sign and a zero. -/
example : socket "[::1]:+0443" = .ok ("[::1]", 443) := rfl

end Target

end Vigil
