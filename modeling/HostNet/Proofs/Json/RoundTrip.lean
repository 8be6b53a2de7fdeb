import HostNet.Proofs.Address.Presentation
import HostNet.Proofs.Json.Reading

/-!
The JSON forms of the library's values. Each value is read back from its text, whether the text is
set close together or by lines.
-/

namespace HostNet

open Json Reader

namespace Address

theorem reads_tokens (a : Address) : Reads reader a.tokens a := by
  have lifted : Reads (StateT.lift (DecodeError.ofAddress (ofPresentation a.text))) [] a := by
    rw [ofPresentation_text]
    exact .pure a
  exact (Reads.string a.text).bind lifted

theorem legible_tokens (a : Address) : Legible a.tokens :=
  .text a.text

theorem reads_optional (value : Option Address) :
    Reads (optional reader) (optionTokens tokens value) value := by
  cases value with
  | none => exact .optional_none
  | some a => exact a.reads_tokens.optional_some nofun

end Address

namespace Endpoint

theorem reads_tokens (e : Endpoint) : Reads reader e.tokens e := by
  have address : Reads (Draft.member ⟨none, none⟩ "address") e.address.tokens
      ⟨some e.address, none⟩ :=
    e.address.reads_tokens.once.map fun address => (⟨address, none⟩ : Draft)
  have port : Reads (Draft.member ⟨some e.address, none⟩ "port") [.ofNat e.portNumber.toNat]
      ⟨some e.address, some e.portNumber.toNat⟩ :=
    (Reads.natural e.portNumber.toNat_lt_size).once.map fun number =>
      (⟨some e.address, number⟩ : Draft)
  have members := Reads.object (.step address (.step port (.done _)))
  have finished : Reads (Draft.finish ⟨some e.address, some e.portNumber.toNat⟩) []
      ⟨e.address, UInt16.ofNat e.portNumber.toNat⟩ :=
    .pure _
  have whole := members.bind finished
  rw [UInt16.ofNat_toNat, List.append_nil] at whole
  exact whole.record

theorem legible_tokens (e : Endpoint) : Legible e.tokens := by
  apply Legible.object
  intro m member
  rcases List.mem_cons.mp member with rfl | member
  · exact e.address.legible_tokens
  · rw [List.mem_singleton.mp member]
    exact .number e.portNumber.toNat

end Endpoint

namespace Binding

theorem reads_tokens (b : Binding) : Reads reader b.tokens b := by
  have unicast : Reads (Draft.member ⟨none, none, none⟩ "unicast") b.unicast.tokens
      ⟨some b.unicast, none, none⟩ :=
    b.unicast.reads_tokens.once.map fun unicast => (⟨unicast, none, none⟩ : Draft)
  have netmask : Reads (Draft.member ⟨some b.unicast, none, none⟩ "netmask")
      (optionTokens Address.tokens b.netmask) ⟨some b.unicast, some b.netmask, none⟩ :=
    (Address.reads_optional b.netmask).once.map fun netmask =>
      (⟨some b.unicast, netmask, none⟩ : Draft)
  have broadcast : Reads (Draft.member ⟨some b.unicast, some b.netmask, none⟩ "broadcast")
      (optionTokens Address.tokens b.broadcast)
      ⟨some b.unicast, some b.netmask, some b.broadcast⟩ :=
    (Address.reads_optional b.broadcast).once.map fun broadcast =>
      (⟨some b.unicast, some b.netmask, broadcast⟩ : Draft)
  have members := Reads.object (.step unicast (.step netmask (.step broadcast (.done _))))
  have finished : Reads (Draft.finish ⟨some b.unicast, some b.netmask, some b.broadcast⟩) [] b :=
    .pure _
  have whole := members.bind finished
  rw [List.append_nil] at whole
  exact whole.record

theorem legible_tokens (b : Binding) : Legible b.tokens := by
  apply Legible.object
  simp only [List.mem_cons, List.not_mem_nil, or_false]
  rintro m (rfl | rfl | rfl)
  · exact b.unicast.legible_tokens
  · exact .option Address.legible_tokens
  · exact .option Address.legible_tokens

end Binding

namespace Interface

theorem reads_tokens (i : Interface) : Reads reader i.tokens i := by
  have name : Reads (Draft.member ⟨none, none, none, none⟩ "name") [.ofString i.name]
      ⟨some i.name, none, none, none⟩ :=
    (Reads.string i.name).once.map fun name => (⟨name, none, none, none⟩ : Draft)
  have displayName : Reads (Draft.member ⟨some i.name, none, none, none⟩ "display_name")
      [.ofString i.displayName] ⟨some i.name, some i.displayName, none, none⟩ :=
    (Reads.string i.displayName).once.map fun displayName =>
      (⟨some i.name, displayName, none, none⟩ : Draft)
  have index : Reads (Draft.member ⟨some i.name, some i.displayName, none, none⟩ "index")
      [.ofNat i.index.toNat] ⟨some i.name, some i.displayName, some i.index.toNat, none⟩ :=
    (Reads.natural i.index.toNat_lt_size).once.map fun index =>
      (⟨some i.name, some i.displayName, index, none⟩ : Draft)
  have array : Reads (Reader.array Binding.reader) (arrayTokens (i.bindings.map Binding.tokens))
      i.bindings :=
    .array (fun b _ => ⟨.brace, _, rfl⟩) fun b _ => b.reads_tokens
  have bindings : Reads (Draft.member
      ⟨some i.name, some i.displayName, some i.index.toNat, none⟩ "addresses")
      (arrayTokens (i.bindings.map Binding.tokens))
      ⟨some i.name, some i.displayName, some i.index.toNat, some i.bindings⟩ :=
    array.once.map fun bindings =>
      (⟨some i.name, some i.displayName, some i.index.toNat, bindings⟩ : Draft)
  have members := Reads.object
    (.step name (.step displayName (.step index (.step bindings (.done _)))))
  have finished : Reads (Draft.finish
      ⟨some i.name, some i.displayName, some i.index.toNat, some i.bindings⟩) []
      ⟨i.name, i.displayName, UInt32.ofNat i.index.toNat, i.bindings⟩ :=
    .pure _
  have whole := members.bind finished
  rw [UInt32.ofNat_toNat, List.append_nil] at whole
  exact whole.record

theorem legible_tokens (i : Interface) : Legible i.tokens := by
  apply Legible.object
  simp only [List.mem_cons, List.not_mem_nil, or_false]
  rintro m (rfl | rfl | rfl | rfl)
  · exact .text i.name
  · exact .text i.displayName
  · exact .number i.index.toNat
  · exact .array fun b _ => b.legible_tokens

end Interface

namespace Json

variable {α : Type} {reader : Reader α} {ts : List Token} {a : α}

/-- The value is read from both texts of the tokens. -/
def ReadBack (reader : Reader α) (ts : List Token) (a : α) : Prop :=
  Reader.run reader (String.ofList (compact ts)) = .ok a ∧
    Reader.run reader (String.ofList (pretty 0 ts)) = .ok a

theorem run_of_spaced {text : List Char} (reads : Reads reader ts a) (legible : Legible ts)
    (spaced : Spaced ts text) : Reader.run reader (String.ofList text) = .ok a := by
  have read := reads []
  rw [List.append_nil] at read
  rw [Reader.run, String.toList_ofList, spaced.lex_eq legible, read]

theorem Reads.readBack (reads : Reads reader ts a) (legible : Legible ts) :
    ReadBack reader ts a :=
  ⟨run_of_spaced reads legible (.compact ts), run_of_spaced reads legible (.pretty 0 ts)⟩

/-- Their texts differ, however they are set. -/
def Apart (ts ts' : List Token) : Prop :=
  compact ts ≠ compact ts' ∧ pretty 0 ts ≠ pretty 0 ts'

theorem ReadBack.apart {ts' : List Token} {a' : α} (read : ReadBack reader ts a)
    (read' : ReadBack reader ts' a') (different : a ≠ a') : Apart ts ts' := by
  constructor
  · intro same
    have first := read.1
    rw [same, read'.1] at first
    exact different (Except.ok.inj first).symm
  · intro same
    have first := read.2
    rw [same, read'.2] at first
    exact different (Except.ok.inj first).symm

/-- Every value is read back from its JSON texts. A missing netmask or broadcast address is written
in another way than one that is there but unspecified. -/
theorem values_read_back :
    (∀ a : Address, ReadBack Address.reader a.tokens a) ∧
    (∀ e : Endpoint, ReadBack Endpoint.reader e.tokens e) ∧
    (∀ b : Binding, ReadBack Binding.reader b.tokens b ∧
      Apart { b with netmask := none }.tokens { b with netmask := some .unspecified }.tokens ∧
      Apart { b with broadcast := none }.tokens { b with broadcast := some .unspecified }.tokens) ∧
    (∀ i : Interface, ReadBack Interface.reader i.tokens i) ∧
    ∀ is : List Interface, ReadBack (Reader.array Interface.reader)
      (arrayTokens (is.map Interface.tokens)) is := by
  have binding : ∀ b : Binding, ReadBack Binding.reader b.tokens b :=
    fun b => b.reads_tokens.readBack b.legible_tokens
  refine ⟨fun a => a.reads_tokens.readBack a.legible_tokens,
    fun e => e.reads_tokens.readBack e.legible_tokens, ?_,
    fun i => i.reads_tokens.readBack i.legible_tokens, ?_⟩
  · intro b
    refine ⟨binding b, (binding _).apart (binding _) ?_, (binding _).apart (binding _) ?_⟩
    · intro same
      cases (Binding.mk.inj same).2.1
    · intro same
      cases (Binding.mk.inj same).2.2
  · intro is
    have reads : Reads (Reader.array Interface.reader) (arrayTokens (is.map Interface.tokens)) is :=
      .array (fun i _ => ⟨.brace, _, rfl⟩) fun i _ => i.reads_tokens
    exact reads.readBack (.array fun i _ => i.legible_tokens)

end Json

end HostNet
