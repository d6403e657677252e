import AccessGate.Proofs.Url.LetterCase
import AccessGate.Proofs.Url.Starred

/-!
Names of a single label in ASCII. They are kept as they are, in lower case, and they are the only names
that give such a name.
-/

namespace AccessGate.Url

open Text (lower)

namespace DomainName

theorem labels_undotted (points : List Nat) (undotted : dot ∉ points) : labels points = [points] := by
  induction points with
  | nil => rfl
  | cons point points ih =>
      rw [List.mem_cons, not_or] at undotted
      have other : point ≠ 0x2E := Ne.symm undotted.1
      rw [labels, if_neg other, ih undotted.2]

theorem labels_single (points label : List Nat) (single : labels points = [label]) : label = points := by
  obtain ⟨others, last, front, cut, whole, -, alone, -⟩ := labels_last points
  rw [single] at cut
  cases others with
  | nil =>
      cases cut
      rw [whole, alone.mp rfl, List.nil_append]
  | cons first others =>
      have sizes := congrArg List.length cut
      simp at sizes

/-- A label in ASCII that is not marked as Punycode. -/
structure PlainLabel (label : List Nat) : Prop where
  ascii : label.all (· < 128) = true
  unmarked : label.take 4 ≠ escapeMark

theorem PlainLabel.read {label : List Nat} (plain : PlainLabel label) : readLabel label = some label := by
  rw [readLabel, if_neg plain.unmarked]

theorem PlainLabel.write {label : List Nat} (plain : PlainLabel label) :
    writeLabel label = label.map Char.ofNat := by
  rw [writeLabel, if_pos plain.ascii]

theorem points_text (name : List Char) : (points name).map Char.ofNat = lower name := by
  rw [points, lower, List.map_map]
  exact List.map_congr_left fun c _ => Char.ofNat_toNat c.toLower

theorem toAscii_ok (name found : List Char) (ascii : ∀ c ∈ name, c.toNat < 128)
    (read : toAscii? name = some found) :
    ∃ all, (labels (points name)).mapM readLabel = some all ∧
      found = ['.'].intercalate (all.map writeLabel) := by
  obtain ⟨mapped, small⟩ := mapped_ascii name ascii
  unfold toAscii? at read
  dsimp only at read
  rw [mapped, if_pos small] at read
  split at read
  · cases read
  · rename_i all labelled
    split at read
    · cases read
      exact ⟨all, labelled, rfl⟩
    · cases read

theorem toAscii_plain (name found : List Char) (ascii : ∀ c ∈ name, c.toNat < 128)
    (undotted : dot ∉ points name) (plain : PlainLabel (points name))
    (read : toAscii? name = some found) : found = lower name := by
  obtain ⟨all, labelled, rfl⟩ := toAscii_ok name found ascii read
  rw [labels_undotted _ undotted] at labelled
  simp only [List.mapM_cons, List.mapM_nil, plain.read] at labelled
  cases labelled
  simpa [plain.write] using points_text name

/-- Only a name itself gives a name of one label that is not marked as Punycode. -/
theorem toAscii_source (name found : List Char) (ascii : ∀ c ∈ name, c.toNat < 128) (undotted : '.' ∉ found)
    (unmarked : found.take 4 ≠ "xn--".toList) (read : toAscii? name = some found) :
    found = lower name := by
  obtain ⟨all, labelled, rfl⟩ := toAscii_ok name found ascii read
  have pairs := Text.mapM_read labelled
  cases cut : labels (points name) with
  | nil => 
      obtain ⟨others, label, front, whole, -⟩ := labels_last (points name)
      rw [cut] at whole
      exact absurd whole.symm (by simp)
  | cons label others =>
      rw [cut] at pairs
      cases pairs with
      | @cons _ text _ more first rest =>
          cases rest with
          | @cons _ next _ more second rest =>
              rw [List.map_cons, List.map_cons, List.intercalate_cons_cons] at undotted
              exact absurd (by simp) undotted
          | nil =>
              have whole := labels_single _ _ cut
              subst whole
              have single : ['.'].intercalate ([text].map writeLabel) = writeLabel text := by simp
              rw [single] at unmarked ⊢
              by_cases small : text.all (· < 128) = true
              · have same : text = points name := by
                  unfold readLabel at first
                  split at first
                  · split at first
                    · rename_i decoded _
                      split at first
                      · rename_i known
                        cases first
                        obtain ⟨n, member, large⟩ := List.any_eq_true.mp known.1
                        have low := List.all_eq_true.mp small n member
                        simp only [decide_eq_true_eq] at large low
                        omega
                      · cases first
                    · cases first
                  · exact (Option.some.inj first).symm
                rw [writeLabel, if_pos small, same, points_text]
              · rw [writeLabel, if_neg small] at unmarked
                exact absurd rfl unmarked

end DomainName

namespace Host

theorem parse_domain (cs name : List Char) (unescaped : '%' ∉ cs) (unbracketed : cs.head? ≠ some '[')
    (read : parse cs = .ok (.domain name)) : DomainName.toAscii? cs = some name := by
  rw [parse_named cs unescaped unbracketed] at read
  unfold named at read
  split at read
  · cases read
  · cases read
  · rename_i found _ told
    split at read
    · cases octets : V4.parse found with
      | error e =>
          rw [octets] at read
          cases read
      | ok parts =>
          rw [octets] at read
          cases read
    · cases read
      exact told

end Host

/-! ## Names of schemes -/

def Networked (scheme : List Char) : Prop := isSpecial scheme = true ∧ isFile scheme = false

theorem networked_cases {scheme : List Char} (networked : Networked scheme) :
    scheme ∈ ["http", "ws", "https", "wss", "ftp"].map String.toList := by
  obtain ⟨special, unfiled⟩ := networked
  simp only [isSpecial, unfiled, Bool.or_false, defaultPort?] at special
  split at special
  · rename_i known
    rcases known with rfl | rfl <;> decide
  · split at special
    · rename_i known
      rcases known with rfl | rfl <;> decide
    · split at special
      · rename_i known
        subst known
        decide
      · cases special

/-- The name of a scheme is a name of one label, and no address. -/
structure SchemeName (scheme : List Char) : Prop where
  ascii : ∀ c ∈ scheme, c.toNat < 128
  letters : ∀ c ∈ scheme, c.isAlpha = true
  lowered : lower scheme = scheme
  undotted : '.' ∉ scheme ∧ DomainName.dot ∉ DomainName.points scheme
  plain : DomainName.PlainLabel (DomainName.points scheme)
  unmarked : scheme.take 4 ≠ "xn--".toList
  nameless : V4.isAddress scheme = false
  named : scheme ≠ []

theorem schemeName {scheme : List Char} (networked : Networked scheme) : SchemeName scheme := by
  have table : ∀ scheme ∈ ["http", "ws", "https", "wss", "ftp"].map String.toList, SchemeName scheme := by
    intro scheme member
    simp only [List.map_cons, List.map_nil, List.mem_cons, List.not_mem_nil, or_false] at member
    rcases member with rfl | rfl | rfl | rfl | rfl
    all_goals
      exact ⟨by simp, by simp, by decide, by decide, ⟨by decide, by decide⟩, by decide, by decide,
        by decide⟩
  exact table scheme (networked_cases networked)

namespace SchemeName

variable {scheme : List Char}

theorem bare (named : SchemeName scheme) : '%' ∉ scheme ∧ scheme.head? ≠ some '[' := by
  constructor
  · intro member
    cases named.letters '%' member
  · intro first
    cases named.letters '[' (List.mem_of_mem_head? first)

theorem parse_self (named : SchemeName scheme) (host : Host) (read : Host.parse scheme = .ok host) :
    host = .domain scheme := by
  rw [Host.parse_named scheme named.bare.1 named.bare.2] at read
  unfold Host.named at read
  split at read
  · cases read
  · cases read
  · rename_i found _ told
    have same := DomainName.toAscii_plain scheme found named.ascii named.undotted.2 named.plain told
    rw [named.lowered] at same
    subst same
    rw [named.nameless, if_neg Bool.false_ne_true] at read
    exact (Except.ok.inj read).symm

theorem parse_source (named : SchemeName scheme) (cs : List Char) (ascii : ∀ c ∈ cs, c.toNat < 128)
    (unescaped : '%' ∉ cs) (unbracketed : cs.head? ≠ some '[')
    (read : Host.parse cs = .ok (.domain scheme)) : lower cs = scheme :=
  (DomainName.toAscii_source cs scheme ascii named.undotted.1 named.unmarked
    (Host.parse_domain cs scheme unescaped unbracketed read)).symm

end SchemeName

end AccessGate.Url
