import DirectoryLogin.Proofs.Target
import Mathlib.Data.List.Basic

/-!
# Addresses of servers

The address of a configured server is what follows the first scheme mark, or the whole text. A
target is a fixed point: made a target again it stays as it is, and in another mode it changes its
scheme only. The scheme that a server is configured with plays no part.
-/

namespace DirectoryLogin.Server

open Transport (Mode Scheme)

/-- The text has a scheme mark somewhere. -/
def Marked (text : List Char) : Prop := schemeMark <:+: text

instance (text : List Char) : Decidable (Marked text) :=
  inferInstanceAs (Decidable (schemeMark <:+: text))

theorem not_marked_of_notMem {c : Char} {text : List Char} (hc : c ∈ schemeMark) (h : c ∉ text) :
    ¬ Marked text := fun hmark => h (hmark.subset hc)

private theorem isPrefixOf?_eq_none {text : List Char} (h : ¬ schemeMark <+: text) :
    schemeMark.isPrefixOf? text = none := by
  rw [Option.eq_none_iff_forall_ne_some]
  intro tail htail
  exact h ⟨tail, List.isPrefixOf?_eq_some_iff_append_eq.mp htail⟩

/-- No end of the mark is a beginning of it, so that it is not found earlier than it stands. -/
private theorem not_prefix_append_mark {c : Char} {rest : List Char} (h : ¬ Marked (c :: rest))
    (after : List Char) : ¬ schemeMark <+: c :: (rest ++ (schemeMark ++ after)) := by
  rintro ⟨tail, htail⟩
  match rest, h, htail with
  | [], _, htail => simp [schemeMark] at htail
  | [d], _, htail => simp [schemeMark] at htail
  | d :: e :: more, h, htail =>
      simp only [schemeMark, List.cons_append, List.nil_append, List.cons.injEq] at htail
      obtain ⟨rfl, rfl, rfl, -⟩ := htail
      exact h ⟨[], more, rfl⟩

private theorem cut_append_mark {before : List Char} (h : ¬ Marked before) (after : List Char) :
    Text.cut schemeMark (before ++ (schemeMark ++ after)) = some (before, after) := by
  induction before with
  | nil => rfl
  | cons c rest ih =>
      have hrest : ¬ Marked rest := fun hmark => h (List.infix_cons hmark)
      rw [List.cons_append, Text.cut, isPrefixOf?_eq_none (not_prefix_append_mark h after),
        ih hrest]
      rfl

private theorem cut_of_not_marked {text : List Char} (h : ¬ Marked text) :
    Text.cut schemeMark text = none := by
  induction text with
  | nil => rfl
  | cons c rest ih =>
      have hfirst : ¬ schemeMark <+: c :: rest := fun hprefix => h hprefix.isInfix
      have hrest : ¬ Marked rest := fun hmark => h (List.infix_cons hmark)
      rw [Text.cut, isPrefixOf?_eq_none hfirst, ih hrest]
      rfl

theorem address_append_mark {before : List Char} (h : ¬ Marked before) (after : List Char) :
    address (before ++ (schemeMark ++ after)) = after := by
  rw [address, cut_append_mark h]

theorem address_of_not_marked {text : List Char} (h : ¬ Marked text) : address text = text := by
  rw [address, cut_of_not_marked h]

theorem portSuffix_of_mem {text : List Char} (mode : Mode) (h : ':' ∈ text) :
    portSuffix mode text = [] := by
  simp [portSuffix, h]

theorem portSuffix_of_notMem {text : List Char} (mode : Mode) (h : ':' ∉ text) :
    portSuffix mode text = ':' :: (toString mode.defaultPort).toList := by
  simp [portSuffix, h]

theorem colon_mem_append_portSuffix (mode : Mode) (text : List Char) :
    ':' ∈ text ++ portSuffix mode text := by
  by_cases h : ':' ∈ text
  · exact List.mem_append_left _ h
  · rw [portSuffix_of_notMem mode h]
    exact List.mem_append_right _ List.mem_cons_self

private theorem not_marked_scheme (scheme : Scheme) : ¬ Marked scheme.text.toList := by
  unfold Marked
  cases scheme <;> decide

theorem address_target (url : String) (mode : Mode) : address (target url mode).toList =
    address url.toList ++ portSuffix mode (address url.toList) := by
  rw [target_toList, address_append_mark (not_marked_scheme mode.scheme)]

theorem target_eq (url : String) (mode : Mode) : target url mode =
    mode.scheme.text ++ "://" ++ String.ofList (address (target url mode).toList) := by
  rw [address_target, ← String.toList_inj, target_toList]
  simp [schemeMark]

theorem colon_mem_address_target (url : String) (mode : Mode) :
    ':' ∈ address (target url mode).toList := by
  rw [address_target]
  exact colon_mem_append_portSuffix mode _

/-- Another mode keeps the address of a target, which has a port already. -/
theorem address_target_target (url : String) (mode other : Mode) :
    address (target (target url mode) other).toList = address (target url mode).toList := by
  rw [address_target (target url mode), portSuffix_of_mem other (colon_mem_address_target url mode),
    List.append_nil]

/-- How the target of a server comes about, and what becomes of it. -/
structure Normalized (url : String) (mode : Mode) : Prop where
  settled : target (target url mode) mode = target url mode
  /-- In another mode only the scheme changes. -/
  carried : ∀ other, target (target url mode) other =
      other.scheme.text ++ "://" ++ String.ofList (address (target url mode).toList) ∧
    address (target (target url mode) other).toList = address (target url mode).toList
  /-- A scheme before an address changes nothing. -/
  unschemed : ∀ scheme text : String, ¬ Marked scheme.toList → ¬ Marked text.toList →
    url = scheme ++ "://" ++ text → target url mode = target text mode
  /-- What comes before the first mark is no part of the address. -/
  first : ∀ before after : String, ¬ Marked before.toList → url = before ++ "://" ++ after →
    address url.toList = after.toList
  whole : ¬ Marked url.toList → address url.toList = url.toList
  hasPort : ':' ∈ address (target url mode).toList
  ported : ':' ∉ address url.toList → address (target url mode).toList =
    address url.toList ++ ':' :: (toString mode.defaultPort).toList
  kept : ':' ∈ address url.toList → address (target url mode).toList = address url.toList

private theorem address_schemed {before : String} (h : ¬ Marked before.toList) (after : String) :
    address (before ++ "://" ++ after).toList = after.toList := by
  have htext : (before ++ "://" ++ after).toList =
      before.toList ++ (schemeMark ++ after.toList) := by simp [schemeMark]
  rw [htext, address_append_mark h]

/-- However a server is written, its target is normal. -/
theorem target_normalized (url : String) (mode : Mode) : Normalized url mode where
  settled := by
    rw [target_eq (target url mode), address_target_target, ← target_eq]
  carried other := by
    refine ⟨?_, address_target_target url mode other⟩
    rw [target_eq (target url mode), address_target_target]
  unschemed scheme text hscheme htext heq := by
    have haddress : address url.toList = address text.toList := by
      rw [heq, address_schemed hscheme, address_of_not_marked htext]
    rw [← String.toList_inj, target_toList, target_toList, haddress]
  first before after hbefore heq := by rw [heq, address_schemed hbefore]
  whole h := address_of_not_marked h
  hasPort := colon_mem_address_target url mode
  ported h := by rw [address_target, portSuffix_of_notMem mode h]
  kept h := by rw [address_target, portSuffix_of_mem mode h, List.append_nil]

/-- Of two marks the first counts, and the port comes once. -/
theorem target_normalized_nested :
    ¬ Marked "ldaps".toList ∧ ¬ Marked "ldap1".toList ∧
      "ldaps://ldap1" = "ldaps" ++ "://" ++ "ldap1" ∧
      target "ldaps://ldap1" .plain = target "ldap1" .plain ∧
      address "ldaps://ldap://ldap1".toList = "ldap://ldap1".toList ∧
      target (target "ldap1" .tls) .plain = "ldap://ldap1:636" := by
  have hscheme : ¬ Marked "ldaps".toList := by decide
  have hname : ¬ Marked "ldap1".toList := by decide
  have hcolon : ':' ∉ address "ldap1".toList := by decide
  refine ⟨hscheme, hname, rfl, ?_, ?_, ?_⟩
  · exact (target_normalized "ldaps://ldap1" .plain).unschemed "ldaps" "ldap1" hscheme hname rfl
  · exact (target_normalized _ .plain).first "ldaps" "ldap://ldap1" hscheme rfl
  · rw [((target_normalized "ldap1" .tls).carried .plain).1,
      (target_normalized "ldap1" .tls).ported hcolon]
    decide

end DirectoryLogin.Server
