import VoodooPS2.Controller.Installed
import VoodooPS2.Sentelic.PacketSize

/-! # The Sentelic driver on its pad

A Sentelic pad takes certain sample rates for selectors: the byte after one is the number of a register, or
a value for it, in the disguise that goes with the selector.  Some pads let registers be written only while
the register clock is on.

`registers_refine`: on such a pad the functions for registers read and write a file of registers, for every
number and every value.  `Live.keeps_tag`: once the driver has been started or woken, the pad tags its clicks
and sends packets of the size that the driver reads, and no other register has been touched. -/

namespace VoodooPS2.Sentelic

open Controller Dialogue

/-! ### A pad -/

def Selectors.names (s : Selectors) (b : UInt8) : Prop := b = s.plain ∨ b = s.swapped ∨ b = s.inverted

instance (s : Selectors) (b : UInt8) : Decidable (s.names b) := inferInstanceAs (Decidable (_ ∨ _))

/-- What one pad does that another does not. -/
structure FspModel where
  /-- what it says to a byte that is no command, which is not looked at -/
  reply : UInt8 → UInt8
  /-- the first two bytes of the information -/
  status : UInt8 × UInt8
  /-- the identity after sample rates 200, 200 and 80 -/
  identity : UInt8
  /-- registers are written while the register clock is on only -/
  gated : Bool

/-- What the next byte is. -/
inductive Expecting where
  | command
  /-- the argument of `kDP_SetMouseSampleRate` -/
  | rate
  /-- the number of the register to be read -/
  | source (select : UInt8)
  /-- the number of the register to be written -/
  | target (select : UInt8)
  | value (select : UInt8)
deriving DecidableEq, Repr

/-- A pad at the mouse port. -/
structure FspPad where
  expecting : Expecting
  /-- the sample rate before was 0x66 -/
  knocked : Bool
  /-- 0x88 has followed, and the next selector is for a read -/
  prepared : Bool
  source : Option UInt8
  target : Option UInt8
  rates : UInt8 × UInt8
  identity : UInt8
  streaming : Bool
  registers : UInt8 → UInt8

namespace FspModel

variable (k : FspModel)

/-- A register is written, or the write is lost on a gated pad. -/
def store (registers : UInt8 → UInt8) (reg val : UInt8) : UInt8 → UInt8 :=
  if k.gated = true ∧ reg ≠ FSP_REG_SYSCTL1 ∧ registers FSP_REG_SYSCTL1 &&& FSP_BIT_EN_REG_CLK = 0 then
    registers
  else Function.update registers reg val

def command (d : FspPad) (b : UInt8) : FspPad :=
  if b = kDPSetMouseSampleRate then { d with expecting := .rate }
  else if b = 0x88 ∧ d.knocked = true then { d with knocked := false, prepared := true }
  else
    let d := { d with knocked := false, prepared := false, target := none }
    if b = kDPGetMouseInformation then { d with source := none }
    else if b = kDPEnable then { d with streaming := true }
    else if b = kDPSetDefaultsAndDisable then { d with streaming := false }
    else d

def sampleRate (d : FspPad) (b : UInt8) : FspPad :=
  if d.prepared = true ∧ readSelectors.names b then { d with expecting := .source b, prepared := false }
  else if writeSelectors.names b then { d with expecting := .target b }
  else if d.target.isSome = true ∧ valueSelectors.names b then { d with expecting := .value b }
  else
    { d with
      expecting := .command
      knocked := b == 0x66
      prepared := false
      rates := (d.rates.2, b)
      identity := if d.rates = (200, 200) ∧ b = 80 then k.identity else d.identity }

def step (d : FspPad) (b : UInt8) : FspPad :=
  match d.expecting with
  | .command => command d b
  | .rate => k.sampleRate d b
  | .source select =>
      { d with expecting := .command, source := readSelectors.unmangle select b }
  | .target select =>
      { d with expecting := .command, target := writeSelectors.unmangle select b }
  | .value select =>
      { d with
        expecting := .command
        target := none
        registers := k.store d.registers (d.target.getD 0) ((valueSelectors.unmangle select b).getD 0) }

/-- The last byte of the information: the register that has been selected, or the sample rate. -/
def lastByte (d : FspPad) : UInt8 :=
  match d.source with
  | some reg => d.registers reg
  | none => d.rates.2

def answer (d : FspPad) (b : UInt8) : List UInt8 :=
  match d.expecting with
  | .command =>
      if b = kDPGetMouseInformation then [kSCAcknowledge, k.status.1, k.status.2, lastByte d]
      else if b = kDPGetId then [kSCAcknowledge, d.identity]
      else if b ≥ kDPSetMouseScaling1To1 then [kSCAcknowledge]
      else [k.reply b]
  | .rate => [kSCAcknowledge]
  | _ => [k.reply b]

def device : Device FspPad UInt8 := ⟨k.step, k.answer⟩

end FspModel

/-! ### Commands that are answered by one byte -/

section

variable {σ : Type} {D : Device σ UInt8} {s : σ}

/-- Each byte is answered by one. -/
def Single (D : Device σ UInt8) : σ → List UInt8 → Prop
  | _, [] => True
  | s, b :: bs => (∃ v, D.answer s b = [v]) ∧ Single D (D.step s b) bs

theorem leaves_fspPs2Command {cmd : BitVec 32} {v : UInt8} (h : D.answer s (lowByte cmd) = [v]) :
    Leaves .mouse D s (fspPs2Command false cmd) (intOf v) (D.step s (lowByte cmd)) := by
  have hwrite := converse_write D .start 0 s [] (lowByte cmd) [readData]
  have hread := converse_reads D [v] [] (D.step s (lowByte cmd)) false 2 []
  rw [List.nil_append, h] at hwrite
  rw [Leaves, fspPs2Command, Prog.bind_eq, converse_bind, converse_processRequest D .mouse (by simp)]
  have hloop : converse .mouse D (processCommands .start 0
      [⟨.writeCommandPort, kCPTransmitToMouse, 0, 0, 0⟩, ⟨.writeDataPort, lowByte cmd, 0, 0, 0⟩,
        ⟨.readDataPort, 0, 0, 0, 0⟩]) (.idle s) =
      ⟨(transmitMouse (lowByte cmd) ++ [readInto v], none), .idle (D.step s (lowByte cmd)), []⟩ := by
    refine hwrite.trans ?_
    rw [show [v] = [v] ++ [] from rfl, show [readData] = [v].map (fun _ => readData) ++ [] from rfl, hread]
    rfl
  rw [hloop]
  rfl

theorem leaves_fspPs2Commands (cmds : List (BitVec 32)) (h : Single D s (cmds.map lowByte)) :
    Leaves .mouse D s (fspPs2Commands false cmds) () (D.after s (cmds.map lowByte)) := by
  induction cmds generalizing s with
  | nil => exact leaves_pure () s
  | cons cmd cmds ih =>
      obtain ⟨⟨v, hv⟩, hrest⟩ := h
      exact (leaves_fspPs2Command hv).bind (ih hrest)

end

/-! ### A register is read or written -/

section

variable {k : FspModel} {d : FspPad}

/-- No command has been begun. -/
structure Ready (d : FspPad) : Prop where
  expecting : d.expecting = .command
  prepared : d.prepared = false

variable (k) in
/-- The byte is answered by one byte, and the pad is in the state `d'` then. -/
def Hears (d : FspPad) (b : UInt8) (d' : FspPad) : Prop :=
  (∃ v, k.device.answer d b = [v]) ∧ k.device.step d b = d'

/-- What is no question is answered by one byte. -/
theorem answer_single {b : UInt8} (h : d.expecting = .command → b ≠ kDPGetMouseInformation ∧ b ≠ kDPGetId) :
    ∃ v, k.device.answer d b = [v] := by
  change ∃ v, k.answer d b = [v]
  unfold FspModel.answer
  cases hd : d.expecting with
  | command =>
      dsimp only
      rw [if_neg (h hd).1, if_neg (h hd).2]
      split <;> exact ⟨_, rfl⟩
  | rate => exact ⟨_, rfl⟩
  | source select => exact ⟨_, rfl⟩
  | target select => exact ⟨_, rfl⟩
  | value select => exact ⟨_, rfl⟩

theorem step_command (h : d.expecting = .command) (b : UInt8) :
    k.device.step d b = FspModel.command d b := by
  change k.step d b = _
  unfold FspModel.step
  rw [h]

theorem hears_command (h : d.expecting = .command) {b : UInt8}
    (hb : b ≠ kDPGetMouseInformation ∧ b ≠ kDPGetId) : Hears k d b (FspModel.command d b) :=
  ⟨answer_single fun _ => hb, step_command h b⟩

theorem hears_setSampleRate (h : d.expecting = .command) :
    Hears k d kDPSetMouseSampleRate { d with expecting := .rate } :=
  hears_command h (by decide)

theorem hears_argument (h : d.expecting = .rate) (b : UInt8) : Hears k d b (k.sampleRate d b) := by
  refine ⟨answer_single fun hc => by simp [h] at hc, ?_⟩
  change k.step d b = _
  unfold FspModel.step
  rw [h]

theorem hears_readSelector (h : d.expecting = .rate) (hprepared : d.prepared = true) {b : UInt8}
    (hb : readSelectors.names b) :
    Hears k d b { d with expecting := .source b, prepared := false } := by
  have hrate : k.sampleRate d b = { d with expecting := .source b, prepared := false } :=
    if_pos ⟨hprepared, hb⟩
  rw [← hrate]
  exact hears_argument h b

theorem hears_writeSelector (h : d.expecting = .rate) (hprepared : d.prepared = false) {b : UInt8}
    (hb : writeSelectors.names b) : Hears k d b { d with expecting := .target b } := by
  have hrate : k.sampleRate d b = { d with expecting := .target b } := by
    unfold FspModel.sampleRate
    rw [if_neg (by simp [hprepared]), if_pos hb]
  rw [← hrate]
  exact hears_argument h b

theorem hears_valueSelector (h : d.expecting = .rate) (hprepared : d.prepared = false) {r : UInt8}
    (htarget : d.target = some r) {b : UInt8} (hb : valueSelectors.names b) :
    Hears k d b { d with expecting := .value b } := by
  have hwrite : ¬ writeSelectors.names b := by
    rcases hb with rfl | rfl | rfl <;> decide
  have hrate : k.sampleRate d b = { d with expecting := .value b } := by
    unfold FspModel.sampleRate
    rw [if_neg (by simp [hprepared]), if_neg hwrite, if_pos (by simp [htarget, hb])]
  rw [← hrate]
  exact hears_argument h b

/-- A sample rate that is no selector. -/
theorem hears_rate (h : d.expecting = .rate) (hprepared : d.prepared = false) {b : UInt8}
    (hwrite : ¬ writeSelectors.names b) (hvalue : ¬ valueSelectors.names b) :
    Hears k d b { d with
      expecting := .command
      knocked := b == 0x66
      prepared := false
      rates := (d.rates.2, b)
      identity := if d.rates = (200, 200) ∧ b = 80 then k.identity else d.identity } := by
  have hargument := hears_argument (k := k) h b
  unfold FspModel.sampleRate at hargument
  rw [if_neg (by simp [hprepared]), if_neg hwrite, if_neg (by simp [hvalue])] at hargument
  exact hargument

theorem hears_source {select b r : UInt8} (h : d.expecting = .source select)
    (hr : readSelectors.unmangle select b = some r) :
    Hears k d b { d with expecting := .command, source := some r } := by
  refine ⟨answer_single fun hc => by simp [h] at hc, ?_⟩
  change k.step d b = _
  unfold FspModel.step
  rw [h, ← hr]

theorem hears_target {select b r : UInt8} (h : d.expecting = .target select)
    (hr : writeSelectors.unmangle select b = some r) :
    Hears k d b { d with expecting := .command, target := some r } := by
  refine ⟨answer_single fun hc => by simp [h] at hc, ?_⟩
  change k.step d b = _
  unfold FspModel.step
  rw [h, ← hr]

theorem hears_value {select b r v : UInt8} (h : d.expecting = .value select)
    (htarget : d.target = some r) (hv : valueSelectors.unmangle select b = some v) :
    Hears k d b { d with
      expecting := .command, target := none, registers := k.store d.registers r v } := by
  refine ⟨answer_single fun hc => by simp [h] at hc, ?_⟩
  change k.step d b = _
  unfold FspModel.step
  rw [h]
  dsimp only
  rw [htarget, hv]
  rfl

variable (k) in
/-- The bytes are answered by one byte each, and the pad is in the state `d'` then. -/
def Leads (d : FspPad) (bs : List UInt8) (d' : FspPad) : Prop :=
  Single k.device d bs ∧ k.device.after d bs = d'

theorem leads_nil : Leads k d [] d := ⟨trivial, rfl⟩

theorem Hears.cons {b : UInt8} {bs : List UInt8} {d' d'' : FspPad} (h : Hears k d b d')
    (h' : Leads k d' bs d'') : Leads k d (b :: bs) d'' := by
  obtain ⟨hone, rfl⟩ := h
  exact ⟨⟨hone, h'.1⟩, h'.2⟩

/-- The pad with a register selected for reading. -/
theorem leads_readBytes (h : Ready d) (reg : UInt8) :
    Leads k d (readBytes reg) { d with
      expecting := .command
      knocked := false
      prepared := false
      source := some reg
      rates := (d.rates.2, 0x66) } := by
  obtain ⟨select, value, hbytes, hselect, hunmangle⟩ :=
    Selectors.unmangle_mangle (s := readSelectors) (by unfold Selectors.Distinct; decide) (intOf reg)
  rw [lowByte_intOf] at hunmangle
  have hread : readBytes reg = [kDPSetMouseSampleRate, 0x66, 0x88, kDPSetMouseSampleRate, select, value] := by
    unfold readBytes
    rw [List.map_append, hbytes]
    rfl
  rw [hread]
  have hfirst := hears_rate (k := k) (d := { d with expecting := .rate }) rfl h.prepared
    (b := 0x66) (by decide) (by decide)
  have hidentity : (if d.rates = (200, 200) ∧ (0x66 : UInt8) = 80 then k.identity else d.identity) =
      d.identity := if_neg (by simp)
  dsimp only at hfirst
  rw [hidentity] at hfirst
  refine (hears_setSampleRate h.expecting).cons (hfirst.cons ?_)
  refine (hears_command rfl (by decide)).cons ((hears_setSampleRate rfl).cons ?_)
  exact (hears_readSelector rfl rfl hselect).cons ((hears_source rfl hunmangle).cons leads_nil)

/-- The pad after a value has been sent for a register. -/
theorem leads_writeBytes (h : Ready d) (reg : UInt8) (val : BitVec 32) :
    Leads k d (([0xf3] ++ writeSelectors.mangle (intOf reg) ++ [0xf3] ++
        valueSelectors.mangle val).map lowByte)
      { d with
        expecting := .command
        target := none
        registers := k.store d.registers reg (lowByte val) } := by
  obtain ⟨select, reg', hreg, hselect, hreg'⟩ :=
    Selectors.unmangle_mangle (s := writeSelectors) (by unfold Selectors.Distinct; decide) (intOf reg)
  obtain ⟨select', val', hval, hselect', hval'⟩ :=
    Selectors.unmangle_mangle (s := valueSelectors) (by unfold Selectors.Distinct; decide) val
  rw [lowByte_intOf] at hreg'
  have hbytes : ([0xf3] ++ writeSelectors.mangle (intOf reg) ++ [0xf3] ++
      valueSelectors.mangle val).map lowByte =
        [kDPSetMouseSampleRate, select, reg', kDPSetMouseSampleRate, select', val'] := by
    rw [List.map_append, List.map_append, List.map_append, hreg, hval]
    rfl
  rw [hbytes]
  have hselector := hears_writeSelector (k := k) (d := { d with expecting := .rate }) rfl h.prepared hselect
  have hselector' := hears_valueSelector (k := k) (d := { d with expecting := .rate, target := some reg })
    rfl h.prepared rfl hselect'
  refine (hears_setSampleRate h.expecting).cons (hselector.cons ?_)
  refine (hears_target rfl hreg').cons ((hears_setSampleRate rfl).cons (hselector'.cons ?_))
  exact (hears_value rfl rfl hval').cons leads_nil

/-- What the functions for registers leave alone, and the registers that they leave. -/
structure Leaving (d d' : FspPad) (registers : UInt8 → UInt8) : Prop where
  ready : Ready d'
  identity : d'.identity = d.identity
  streaming : d'.streaming = d.streaming
  registers : d'.registers = registers

theorem Leaving.trans {d' d'' : FspPad} {r r' : UInt8 → UInt8} (h : Leaving d d' r)
    (h' : Leaving d' d'' r') : Leaving d d'' r' :=
  ⟨h'.ready, h'.identity.trans h.identity, h'.streaming.trans h.streaming, h'.registers⟩

/-- The information, when the pad has more to say than the acknowledge. -/
theorem leaves_outcome {σ : Type} {D : Device σ UInt8} {s : σ} {a b c : UInt8}
    (h : D.answer s kDPGetMouseInformation = [kSCAcknowledge, a, b, c]) :
    Leaves .mouse D s
      ((processRequest false (.ofCommands informationCommands)).bind fun r => pure (outcome r 3)) (intOf c)
      (D.step s kDPGetMouseInformation) := by
  have hheard : hearAck ([] ++ D.answer s kDPGetMouseInformation) = ⟨some kSCAcknowledge, [], [a, b, c]⟩ := by
    rw [List.nil_append, h]
    exact hearAck_cons [a, b, c]
  have hsend := converse_send D hheard .start 0 [readData, readData, readData]
  have hreads := converse_reads D [a, b, c] [] (D.step s kDPGetMouseInformation) false 1 []
  have hloop : converse .mouse D (processCommands .start 0 informationCommands) (.idle s) =
      ⟨(sendMouse kDPGetMouseInformation :: [a, b, c].map readInto, none),
        .idle (D.step s kDPGetMouseInformation), []⟩ := by
    refine hsend.trans ?_
    rw [Conversation.after_nil]
    refine (congrArg (Conversation.behind _) hreads).trans ?_
    rfl
  rw [Leaves, converse_bind, converse_processRequest D .mouse (by decide), hloop]
  rfl

theorem leaves_fspRegRead (h : Ready d) (reg : UInt8) :
    ∃ d', Leaves .mouse k.device d (fspRegRead false reg) (intOf (d.registers reg)) d' ∧
      Leaving d d' d.registers := by
  obtain ⟨hsingle, hafter⟩ := leads_readBytes (k := k) h reg
  have hselect := leaves_fspPs2Commands _ hsingle
  change Leaves .mouse k.device d _ () (k.device.after d (readBytes reg)) at hselect
  rw [hafter] at hselect
  exact ⟨_, hselect.bind (leaves_outcome rfl), ⟨rfl, rfl⟩, rfl, rfl, rfl⟩

theorem leaves_fspRegWrite (h : Ready d) (reg : UInt8) (val : BitVec 32) :
    ∃ d', Leaves .mouse k.device d (fspRegWrite false reg val) () d' ∧
      Leaving d d' (k.store d.registers reg (lowByte val)) := by
  obtain ⟨hsingle, hafter⟩ := leads_writeBytes (k := k) h reg val
  have hwrite := leaves_fspPs2Commands _ hsingle
  rw [hafter] at hwrite
  exact ⟨_, hwrite, ⟨rfl, h.prepared⟩, rfl, rfl, rfl⟩

theorem leaves_updateRegister (h : Ready d) (u : Update) :
    ∃ d', Leaves .mouse k.device d (updateRegister false u) () d' ∧
      Leaving d d' (k.store d.registers u.reg (u.change (d.registers u.reg))) := by
  obtain ⟨d1, hread, h1⟩ := leaves_fspRegRead (k := k) h u.reg
  obtain ⟨d2, hwrite, h2⟩ := leaves_fspRegWrite (k := k) h1.ready u.reg (u.apply (intOf (d.registers u.reg)))
  rw [lowByte_apply, h1.registers] at h2
  exact ⟨d2, hread.bind hwrite, h1.trans h2⟩

/-- The register of the clock is never gated. -/
theorem store_sysctl1 (registers : UInt8 → UInt8) (val : UInt8) :
    k.store registers FSP_REG_SYSCTL1 val = Function.update registers FSP_REG_SYSCTL1 val := by
  unfold FspModel.store
  rw [if_neg (by simp)]

/-- With the clock on nothing is gated. -/
theorem store_clocked {registers : UInt8 → UInt8}
    (hclock : registers FSP_REG_SYSCTL1 &&& FSP_BIT_EN_REG_CLK ≠ 0) (reg val : UInt8) :
    k.store registers reg val = Function.update registers reg val := by
  unfold FspModel.store
  rw [if_neg (by simp [hclock])]

theorem leaves_fspWriteEnable (h : Ready d) (enable : Bool) :
    ∃ d', Leaves .mouse k.device d (fspWriteEnable false enable) () d' ∧
      Leaving d d' (Function.update d.registers FSP_REG_SYSCTL1
        ((writeEnableUpdate enable).change (d.registers FSP_REG_SYSCTL1))) := by
  obtain ⟨d', hupdate, h'⟩ := leaves_updateRegister (k := k) h (writeEnableUpdate enable)
  change Leaving d d' (k.store d.registers FSP_REG_SYSCTL1 _) at h'
  rw [store_sysctl1] at h'
  exact ⟨d', hupdate, h'⟩

/-- The clock is switched on and off. -/
theorem clock_bits (b : UInt8) :
    (writeEnableUpdate true).change b &&& FSP_BIT_EN_REG_CLK ≠ 0 ∧
      (writeEnableUpdate false).change ((writeEnableUpdate true).change b) =
        (writeEnableUpdate false).change b := by
  have h : ∀ b : BitVec 8, (b ||| 0x20#8) &&& 0x20#8 ≠ 0#8 ∧
      (b ||| 0x20#8) &&& ~~~0x20#8 = b &&& ~~~0x20#8 := by decide
  obtain ⟨hon, hoff⟩ := h b.toBitVec
  constructor
  · intro hzero
    exact hon (congrArg UInt8.toBitVec hzero)
  · exact UInt8.eq_of_toBitVec_eq hoff

/-- The registers with the clock off and the tag of clicks on or off. -/
def tagged (registers : UInt8 → UInt8) (enable : Bool) : UInt8 → UInt8 :=
  Function.update
    (Function.update registers FSP_REG_OPC_QDOWN
      (Update.change ⟨FSP_REG_OPC_QDOWN, FSP_BIT_EN_OPC_TAG, enable⟩ (registers FSP_REG_OPC_QDOWN)))
    FSP_REG_SYSCTL1 ((writeEnableUpdate false).change (registers FSP_REG_SYSCTL1))

/-- **One bit is changed, on gated pads, too**, and the clock is off again. -/
theorem leaves_fspOpctagEnable (h : Ready d) (enable : Bool) :
    ∃ d', Leaves .mouse k.device d (fspOpctagEnable false enable) () d' ∧
      Leaving d d' (tagged d.registers enable) := by
  obtain ⟨d1, hon, h1⟩ := leaves_fspWriteEnable (k := k) h true
  obtain ⟨d2, htag, h2⟩ :=
    leaves_updateRegister (k := k) h1.ready ⟨FSP_REG_OPC_QDOWN, FSP_BIT_EN_OPC_TAG, enable⟩
  obtain ⟨d3, hoff, h3⟩ := leaves_fspWriteEnable (k := k) h2.ready false
  have hne : FSP_REG_OPC_QDOWN ≠ FSP_REG_SYSCTL1 := by decide
  obtain ⟨hclock, hclear⟩ := clock_bits (d.registers FSP_REG_SYSCTL1)
  have hregisters : d3.registers = tagged d.registers enable := by
    have hclocked : d1.registers FSP_REG_SYSCTL1 &&& FSP_BIT_EN_REG_CLK ≠ 0 := by
      rw [h1.registers, Function.update_self]
      exact hclock
    rw [h3.registers, h2.registers, store_clocked hclocked, h1.registers]
    unfold tagged
    rw [Function.update_of_ne hne.symm, Function.update_self, Function.update_of_ne hne, hclear]
    funext r
    by_cases hr : r = FSP_REG_SYSCTL1
    · rw [hr, Function.update_self, Function.update_self]
    · rw [Function.update_of_ne hr, Function.update_of_ne hr]
      by_cases hq : r = FSP_REG_OPC_QDOWN
      · rw [hq, Function.update_self, Function.update_self]
      · rw [Function.update_of_ne hq, Function.update_of_ne hq, Function.update_of_ne hr]
  have hall := (h1.trans h2).trans h3
  exact ⟨d3, hon.bind (htag.bind hoff), hall.ready, hall.identity, hall.streaming, hregisters⟩

end

/-! ### The probe -/

def FSP_REG_DEVICE_ID : UInt8 := 0x00
def FSP_REG_VERSION : UInt8 := 0x01
def FSP_REG_REVISION : UInt8 := 0x04
def FSP_DEVICE_MAGIC : UInt8 := 0x01

/-- The commands of `probe`: `_touchPadVersion`, if the pad is one. -/
def probe (hardwareOffline : Bool) : Prog (Option (BitVec 32)) := do
  let id ← fspRegRead hardwareOffline FSP_REG_DEVICE_ID
  if id = intOf FSP_DEVICE_MAGIC then do
    let version ← fspRegRead hardwareOffline FSP_REG_VERSION
    let revision ← fspRegRead hardwareOffline FSP_REG_REVISION
    return some (version <<< 8 ||| revision)
  else return none

theorem intOf_inj {a b : UInt8} (h : intOf a = intOf b) : a = b := by
  have hbytes := congrArg lowByte h
  rw [lowByte_intOf, lowByte_intOf] at hbytes
  exact hbytes

/-! ### The functions for registers refine a file of registers -/

/-- The functions for registers. -/
inductive Operation where
  | probe
  | read (reg : UInt8)
  | write (reg : UInt8) (val : BitVec 32)
  | writeEnable (enable : Bool)
  | opctagEnable (enable : Bool)
deriving DecidableEq, Repr

namespace Operation

/-- What is returned, if it is looked at. -/
def program (hardwareOffline : Bool) : Operation → Prog (Option (BitVec 32))
  | .probe => Sentelic.probe hardwareOffline
  | .read reg => do
      let val ← fspRegRead hardwareOffline reg
      return some val
  | .write reg val => do
      fspRegWrite hardwareOffline reg val
      return none
  | .writeEnable enable => do
      fspWriteEnable hardwareOffline enable
      return none
  | .opctagEnable enable => do
      fspOpctagEnable hardwareOffline enable
      return none

/-- The operation on a file of registers. -/
def effect (k : FspModel) (registers : UInt8 → UInt8) : Operation → UInt8 → UInt8
  | .probe => registers
  | .read _ => registers
  | .write reg val => k.store registers reg (lowByte val)
  | .writeEnable enable => Function.update registers FSP_REG_SYSCTL1
      ((writeEnableUpdate enable).change (registers FSP_REG_SYSCTL1))
  | .opctagEnable enable => tagged registers enable

def reply (registers : UInt8 → UInt8) : Operation → Option (BitVec 32)
  | .probe =>
      if registers FSP_REG_DEVICE_ID = FSP_DEVICE_MAGIC then
        some (intOf (registers FSP_REG_VERSION) <<< 8 ||| intOf (registers FSP_REG_REVISION))
      else none
  | .read reg => some (intOf (registers reg))
  | _ => none

end Operation

/-- The operations one after the other. -/
def runOperations (hardwareOffline : Bool) : List Operation → Prog (List (Option (BitVec 32)))
  | [] => return []
  | op :: ops => do
      let val ← op.program hardwareOffline
      let vals ← runOperations hardwareOffline ops
      return val :: vals

/-- What a file of registers replies to the operations. -/
def replies (k : FspModel) : (UInt8 → UInt8) → List Operation → List (Option (BitVec 32))
  | _, [] => []
  | registers, op :: ops => op.reply registers :: replies k (op.effect k registers) ops

section

variable {k : FspModel} {d : FspPad}

theorem leaves_probe (h : Ready d) :
    ∃ d', Leaves .mouse k.device d (probe false) (Operation.probe.reply d.registers) d' ∧
      Leaving d d' d.registers := by
  obtain ⟨d1, hid, h1⟩ := leaves_fspRegRead (k := k) h FSP_REG_DEVICE_ID
  unfold Operation.reply
  by_cases hmagic : d.registers FSP_REG_DEVICE_ID = FSP_DEVICE_MAGIC
  · obtain ⟨d2, hversion, h2⟩ := leaves_fspRegRead (k := k) h1.ready FSP_REG_VERSION
    obtain ⟨d3, hrevision, h3⟩ := leaves_fspRegRead (k := k) h2.ready FSP_REG_REVISION
    rw [h1.registers] at h2 hversion
    rw [h2.registers] at h3 hrevision
    refine ⟨d3, hid.bind ?_, (h1.trans h2).trans h3⟩
    rw [if_pos hmagic, if_pos (congrArg intOf hmagic)]
    exact hversion.bind (hrevision.bind (leaves_pure _ _))
  · refine ⟨d1, hid.bind ?_, h1⟩
    rw [if_neg hmagic, if_neg fun hc => hmagic (intOf_inj hc)]
    exact leaves_pure _ _

theorem leaves_program (h : Ready d) (op : Operation) :
    ∃ d', Leaves .mouse k.device d (op.program false) (op.reply d.registers) d' ∧
      Leaving d d' (op.effect k d.registers) := by
  cases op with
  | probe => exact leaves_probe h
  | read reg =>
      obtain ⟨d', hread, h'⟩ := leaves_fspRegRead (k := k) h reg
      exact ⟨d', hread.bind (leaves_pure _ _), h'⟩
  | write reg val =>
      obtain ⟨d', hwrite, h'⟩ := leaves_fspRegWrite (k := k) h reg val
      exact ⟨d', hwrite.bind (leaves_pure _ _), h'⟩
  | writeEnable enable =>
      obtain ⟨d', hwrite, h'⟩ := leaves_fspWriteEnable (k := k) h enable
      exact ⟨d', hwrite.bind (leaves_pure _ _), h'⟩
  | opctagEnable enable =>
      obtain ⟨d', htag, h'⟩ := leaves_fspOpctagEnable (k := k) h enable
      exact ⟨d', htag.bind (leaves_pure _ _), h'⟩

theorem leaves_runOperations (h : Ready d) (ops : List Operation) :
    ∃ d', Leaves .mouse k.device d (runOperations false ops) (replies k d.registers ops) d' ∧
      Leaving d d' (ops.foldl (Operation.effect k) d.registers) := by
  induction ops generalizing d with
  | nil => exact ⟨d, leaves_pure _ _, h, rfl, rfl, rfl⟩
  | cons op ops ih =>
      obtain ⟨d1, hop, h1⟩ := leaves_program (k := k) h op
      obtain ⟨d2, hops, h2⟩ := ih h1.ready
      rw [h1.registers] at hops h2
      exact ⟨d2, hop.bind (hops.bind (leaves_pure _ _)), h1.trans h2⟩

/-! ### The stream of the programs -/

theorem onStream_fspPs2Command (offline : Bool) (cmd : BitVec 32) :
    (fspPs2Command offline cmd).OnStream .mouse := by
  have hreads : ReadsOnly .mouse .start [⟨.writeCommandPort, kCPTransmitToMouse, 0, 0, 0⟩,
      ⟨.writeDataPort, lowByte cmd, 0, 0, 0⟩, ⟨.readDataPort, 0, 0, 0, 0⟩] :=
    And.intro trivial ⟨trivial, rfl, trivial⟩
  exact onStream_bind (onStream_processRequest (Nat.le_of_ble_eq_true rfl) hreads offline)
    fun _ => trivial

theorem onStream_fspPs2Commands (offline : Bool) (cmds : List (BitVec 32)) :
    (fspPs2Commands offline cmds).OnStream .mouse := by
  induction cmds with
  | nil => exact trivial
  | cons cmd cmds ih => exact onStream_bind (onStream_fspPs2Command offline cmd) fun _ => ih

theorem onStream_fspRegRead (offline : Bool) (reg : UInt8) :
    (fspRegRead offline reg).OnStream .mouse := by
  have hreads : ReadsOnly .mouse .start informationCommands := And.intro rfl ⟨rfl, rfl, rfl, trivial⟩
  apply onStream_bind (onStream_fspPs2Commands offline _)
  intro _
  exact onStream_bind (onStream_processRequest (by decide) hreads offline) fun _ => trivial

theorem onStream_updateRegister (offline : Bool) (u : Update) :
    (updateRegister offline u).OnStream .mouse :=
  onStream_bind (onStream_fspRegRead offline u.reg) fun _ => onStream_fspPs2Commands offline _

theorem onStream_fspOpctagEnable (offline enable : Bool) :
    (fspOpctagEnable offline enable).OnStream .mouse := by
  apply onStream_bind (onStream_updateRegister offline _)
  intro _
  apply onStream_bind (onStream_updateRegister offline _)
  intro _
  exact onStream_updateRegister offline _

theorem onStream_probe (offline : Bool) : (probe offline).OnStream .mouse := by
  apply onStream_bind (onStream_fspRegRead offline _)
  intro id
  split
  · apply onStream_bind (onStream_fspRegRead offline _)
    intro _
    exact onStream_bind (onStream_fspRegRead offline _) fun _ => trivial
  · exact trivial

theorem onStream_program (offline : Bool) (op : Operation) : (op.program offline).OnStream .mouse := by
  cases op with
  | probe => exact onStream_probe offline
  | read reg => exact onStream_bind (onStream_fspRegRead offline reg) fun _ => trivial
  | write reg val => exact onStream_bind (onStream_fspPs2Commands offline _) fun _ => trivial
  | writeEnable enable => exact onStream_bind (onStream_updateRegister offline _) fun _ => trivial
  | opctagEnable enable => exact onStream_bind (onStream_fspOpctagEnable offline enable) fun _ => trivial

theorem onStream_runOperations (offline : Bool) (ops : List Operation) :
    (runOperations offline ops).OnStream .mouse := by
  induction ops with
  | nil => exact trivial
  | cons op ops ih =>
      apply onStream_bind (onStream_program offline op)
      intro _
      exact onStream_bind ih fun _ => trivial

end

/-- **The registers are a file of registers.**  Whatever sequence of functions for registers is run on a
pad, with anybody typing meanwhile: what is read is what has been written, in spite of the disguise that
bytes go in; a tag is changed on a gated pad as well; and nothing is left to be read. -/
theorem registers_refine (k : FspModel) {traffic : ℕ → List Poll} (ht : Harmless .mouse traffic)
    {d : FspPad} (h : Ready d) (ops : List Operation) (n : ℕ) :
    let r := live .mouse k.device traffic (runOperations false ops) (.idle d n)
    r.value = replies k d.registers ops ∧
      r.line.device.registers = ops.foldl (Operation.effect k) d.registers ∧
      r.line.device.streaming = d.streaming ∧ r.line.device.identity = d.identity ∧
      r.line = .idle r.line.device r.line.sent ∧ onStream .mouse r.dispatched = [] ∧
      onStream .keyboard r.dispatched = onStream .keyboard (passed traffic n (r.line.sent - n)) := by
  intro r
  obtain ⟨d', hleaves, h'⟩ := leaves_runOperations (k := k) h ops
  obtain ⟨hvalue, hline, -, hown, hother⟩ :=
    live_idle k.device ht (onStream_runOperations false ops) hleaves n
  have hdevice : r.line.device = d' := congrArg Line.device hline
  refine ⟨hvalue, ?_, ?_, ?_, ?_, hown, hother⟩
  · rw [hdevice, h'.registers]
  · rw [hdevice, h'.streaming]
  · rw [hdevice, h'.identity]
  · rw [hdevice]
    exact hline

/-- A gated pad that has just got power. -/
def gatedPad : FspModel := ⟨fun _ => kSCResend, (0, 2), 4, true⟩

def poweredOn : FspPad where
  expecting := .command
  knocked := false
  prepared := false
  source := none
  target := none
  rates := (0, 100)
  identity := 0
  streaming := false
  registers := fun reg => if reg = FSP_REG_DEVICE_ID then FSP_DEVICE_MAGIC else 0x90

theorem registers_refine_gatedPad :
    let ops : List Operation := [.probe, .opctagEnable true, .write 0x43 0xe9, .writeEnable true,
      .write 0x43 0xe9, .read 0x43]
    let r := live .mouse gatedPad.device typing (runOperations false ops) (.idle poweredOn 0)
    r.value = replies gatedPad poweredOn.registers ops ∧
      r.line.device.registers = ops.foldl (Operation.effect gatedPad) poweredOn.registers ∧
      r.line.device.streaming = poweredOn.streaming ∧ r.line.device.identity = poweredOn.identity ∧
      r.line = .idle r.line.device r.line.sent ∧ onStream .mouse r.dispatched = [] ∧
      onStream .keyboard r.dispatched = onStream .keyboard (passed typing 0 (r.line.sent - 0)) :=
  registers_refine gatedPad harmless_typing ⟨rfl, rfl⟩ [.probe, .opctagEnable true, .write 0x43 0xe9,
    .writeEnable true, .write 0x43 0xe9, .read 0x43] 0

/-! ### The pad is switched on or off -/

section

variable {k : FspModel} {d : FspPad}

/-- A byte that is answered by the acknowledge alone. -/
theorem acks_cons {b : UInt8} {bs : List UInt8} {d' : FspPad} (h : Hears k d b d')
    (hack : k.device.answer d b = [kSCAcknowledge]) (h' : k.device.Acks kSCAcknowledge d' bs) :
    k.device.Acks kSCAcknowledge d (b :: bs) := by
  refine ⟨hack, ?_⟩
  rw [h.2]
  exact h'

theorem answer_ack (h : d.expecting = .command) {b : UInt8} (hlow : b ≥ kDPSetMouseScaling1To1)
    (hb : b ≠ kDPGetMouseInformation ∧ b ≠ kDPGetId) : k.device.answer d b = [kSCAcknowledge] := by
  change k.answer d b = _
  unfold FspModel.answer
  rw [h]
  dsimp only
  rw [if_neg hb.1, if_neg hb.2, if_pos hlow]

theorem answer_rate (h : d.expecting = .rate) (b : UInt8) : k.device.answer d b = [kSCAcknowledge] := by
  change k.answer d b = _
  unfold FspModel.answer
  rw [h]

/-- A sample rate that is no selector, and its command. -/
theorem takes_rate (h : Ready d) {b : UInt8} (hwrite : ¬ writeSelectors.names b)
    (hvalue : ¬ valueSelectors.names b) {bs : List UInt8} {e d' : FspPad}
    (hd : e = { d with
      knocked := b == 0x66
      rates := (d.rates.2, b)
      identity := if d.rates = (200, 200) ∧ b = 80 then k.identity else d.identity })
    (hrest : k.device.Acks kSCAcknowledge e bs ∧ k.device.after e bs = d') :
    k.device.Acks kSCAcknowledge d (kDPSetMouseSampleRate :: b :: bs) ∧
      k.device.after d (kDPSetMouseSampleRate :: b :: bs) = d' := by
  have hset := hears_setSampleRate (k := k) h.expecting
  have hrate := hears_rate (k := k) (d := { d with expecting := .rate }) rfl h.prepared hwrite hvalue
  have hsame : e = { d with
      expecting := .command
      knocked := b == 0x66
      prepared := false
      rates := (d.rates.2, b)
      identity := if d.rates = (200, 200) ∧ b = 80 then k.identity else d.identity } := by
    rw [hd, ← h.expecting, ← h.prepared]
  rw [hsame] at hrest
  constructor
  · exact acks_cons hset (answer_ack h.expecting (by decide) (by decide))
      (acks_cons hrate (answer_rate rfl b) hrest.1)
  · rw [Device.after_cons, hset.2, Device.after_cons, hrate.2]
    exact hrest.2

/-- Sample rates 200, 200 and 80 give the pad its identity. -/
theorem leaves_fspIntellimouseMode (h : Ready d) :
    ∃ d', Leaves .mouse k.device d (fspIntellimouseMode false) k.identity d' ∧ Ready d' ∧
      d'.identity = k.identity ∧ d'.streaming = d.streaming ∧ d'.registers = d.registers := by
  let d1 : FspPad := { d with knocked := false, rates := (d.rates.2, 200) }
  let d2 : FspPad := { d with knocked := false, rates := (200, 200) }
  let d3 : FspPad := { d with knocked := false, rates := (200, 80), identity := k.identity }
  have hthree : k.device.Acks kSCAcknowledge d2 [kDPSetMouseSampleRate, 80] ∧
      k.device.after d2 [kDPSetMouseSampleRate, 80] = d3 := by
    apply takes_rate (d := d2) ⟨h.expecting, h.prepared⟩ (by decide) (by decide) rfl
    exact ⟨trivial, by simp [d2, d3]⟩
  have htwo := takes_rate (k := k) (d := d1) (b := 200) ⟨h.expecting, h.prepared⟩ (by decide) (by decide)
    (e := d2) (by simp [d1, d2]) hthree
  have hall := takes_rate (k := k) (d := d) (b := 200) h (by decide) (by decide)
    (e := d1) (by simp [d1]) htwo
  have hanswer : k.device.answer (k.device.after d
      [kDPSetMouseSampleRate, 200, kDPSetMouseSampleRate, 200, kDPSetMouseSampleRate, 80]) kDPGetId =
        kSCAcknowledge :: [k.identity] := by
    rw [hall.2]
    change k.answer d3 kDPGetId = _
    unfold FspModel.answer
    rw [show d3.expecting = .command from h.expecting]
    rfl
  have hquery := converse_query k.device kDPSetMouseSampleRate _ hall.1 hanswer .start 0 []
  rw [hall.2, List.append_nil] at hquery
  have hstep : k.device.step d3 kDPGetId = FspModel.command d3 kDPGetId :=
    step_command (k := k) (d := d3) h.expecting _
  refine ⟨FspModel.command d3 kDPGetId, ?_, ⟨h.expecting, rfl⟩, rfl, rfl, rfl⟩
  have hlen : (intellimouseBytes.map send ++ [receive]).length ≤ 255 := by decide
  have hloop : converse .mouse k.device
      (processCommands .start 0 (intellimouseBytes.map send ++ [receive])) (.idle d) = _ := hquery
  rw [Leaves, fspIntellimouseMode, Prog.bind_eq, converse_bind,
    converse_processRequest k.device .mouse hlen, hloop, hstep]
  rfl

/-- A command that is acknowledged. -/
theorem leaves_send (h : Ready d) {c : UInt8} (hlow : c ≥ kDPSetMouseScaling1To1)
    (hc : c ≠ kDPGetMouseInformation ∧ c ≠ kDPGetId) :
    Leaves .mouse k.device d (processRequest false (.ofCommands [send c])) (.ofCommands [send c])
      (FspModel.command d c) := by
  have hheard : hearAck ([] ++ k.device.answer d c) = ⟨some kSCAcknowledge, [], []⟩ := by
    rw [List.nil_append, answer_ack h.expecting hlow hc]
    exact hearAck_cons []
  have hsend := converse_send k.device hheard .start 0 []
  rw [Conversation.after_nil, step_command h.expecting] at hsend
  have hloop : converse .mouse k.device (processCommands .start 0 [send c]) (.idle d) = _ := hsend
  rw [Leaves, converse_processRequest k.device .mouse (Nat.le_of_ble_eq_true rfl), hloop]
  rfl

/-- `setTouchPadEnable`: the pad is switched on or off, and has its tag and its identity in either case. -/
theorem leaves_setTouchPadEnable (h : Ready d) (enable : Bool) (packetSize : UInt8) :
    ∃ d', Leaves .mouse k.device d (setTouchPadEnable false enable packetSize)
        (if k.identity = 4 then 4 else packetSize) d' ∧
      Ready d' ∧ d'.identity = k.identity ∧ d'.streaming = enable ∧
      d'.registers = tagged d.registers true := by
  have hswitch : ∃ d1, Leaves .mouse k.device d (processRequest false
      (.ofCommands [send (if enable then kDPEnable else kDPSetDefaultsAndDisable)]))
        (.ofCommands [send (if enable then kDPEnable else kDPSetDefaultsAndDisable)]) d1 ∧
      Ready d1 ∧ d1.streaming = enable ∧ d1.registers = d.registers := by
    cases enable with
    | true => exact ⟨_, leaves_send h (by decide) (by decide), ⟨h.expecting, rfl⟩, rfl, rfl⟩
    | false => exact ⟨_, leaves_send h (by decide) (by decide), ⟨h.expecting, rfl⟩, rfl, rfl⟩
  obtain ⟨d1, hswitch, hready1, hstreaming1, hregisters1⟩ := hswitch
  obtain ⟨d2, htag, h2⟩ := leaves_fspOpctagEnable (k := k) hready1 true
  obtain ⟨d3, hknock, hready, hidentity, hstreaming, hregisters⟩ :=
    leaves_fspIntellimouseMode (k := k) h2.ready
  have henable : Leaves .mouse k.device d (enableTouchPad false enable) () d2 := hswitch.bind htag
  refine ⟨d3, henable.bind (hknock.bind (leaves_pure _ _)), hready, hidentity, ?_, ?_⟩
  · rw [hstreaming, h2.streaming, hstreaming1]
  · rw [hregisters, h2.registers, hregisters1]

theorem onStream_setTouchPadEnable (offline enable : Bool) (packetSize : UInt8) :
    (setTouchPadEnable offline enable packetSize).OnStream .mouse := by
  have hswitch (c : UInt8) : ReadsOnly .mouse .start [send c] := And.intro rfl trivial
  have hknock : ReadsOnly .mouse .start (intellimouseBytes.map send ++ [receive]) := by
    simp [intellimouseBytes, send, receive, ReadsOnly, modeAfter]
  have henable : (enableTouchPad offline enable).OnStream .mouse :=
    onStream_bind (onStream_processRequest (Nat.le_of_ble_eq_true rfl) (hswitch _) offline) fun _ =>
      onStream_fspOpctagEnable offline true
  apply onStream_bind henable
  intro _
  apply onStream_bind
  · exact onStream_bind (onStream_processRequest (by decide) hknock offline) fun _ => trivial
  · exact fun _ => trivial

end

/-- A tag that is on is switched on. -/
theorem tagged_tagged (registers : UInt8 → UInt8) :
    tagged (tagged registers true) true = tagged registers true := by
  have hbits : ∀ b : BitVec 8, (b ||| 0x80#8) ||| 0x80#8 = b ||| 0x80#8 ∧
      (b &&& ~~~0x20#8) &&& ~~~0x20#8 = b &&& ~~~0x20#8 := by decide
  have hon (b : UInt8) : Update.change ⟨FSP_REG_OPC_QDOWN, FSP_BIT_EN_OPC_TAG, true⟩
      (Update.change ⟨FSP_REG_OPC_QDOWN, FSP_BIT_EN_OPC_TAG, true⟩ b) =
        Update.change ⟨FSP_REG_OPC_QDOWN, FSP_BIT_EN_OPC_TAG, true⟩ b :=
    UInt8.eq_of_toBitVec_eq (hbits b.toBitVec).1
  have hoff (b : UInt8) : (writeEnableUpdate false).change ((writeEnableUpdate false).change b) =
      (writeEnableUpdate false).change b := UInt8.eq_of_toBitVec_eq (hbits b.toBitVec).2
  have hne : FSP_REG_OPC_QDOWN ≠ FSP_REG_SYSCTL1 := by decide
  funext r
  unfold tagged
  by_cases hr : r = FSP_REG_SYSCTL1
  · rw [hr, Function.update_self, Function.update_self, hoff]
  · rw [Function.update_of_ne hr, Function.update_of_ne hr]
    by_cases hq : r = FSP_REG_OPC_QDOWN
    · rw [hq, Function.update_self, Function.update_self, Function.update_of_ne hne,
        Function.update_self, hon]
    · rw [Function.update_of_ne hq, Function.update_of_ne hr]

/-- With the hardware offline the identity is that of no answer, and the packet size stays. -/
theorem idles_setTouchPadEnable (enable : Bool) (packetSize : UInt8) :
    (setTouchPadEnable true enable packetSize).Idles packetSize := by
  cases enable <;> rfl

/-! ### Runs of the driver -/

/-- The driver, as far as the state of the pad concerns it. -/
structure State where
  packetSize : UInt8
  /-- the handlers of interrupts and of power control are there -/
  handlersInstalled : Bool

namespace Live

/-- What happens to the driver and its pad. -/
inductive Happening where
  | start
  | stop
  /-- the controller is put to sleep -/
  | sleep
  /-- the controller is woken -/
  | wake
  /-- the pad loses its power, and comes back with what its registers are then -/
  | powerLost (d : FspPad) (h : Ready d ∧ d.streaming = false)

abbrev World := Powered FspPad State

section

variable (k : FspModel) (traffic : ℕ → List Poll)

/-- No byte of the pad is left over (`switch_spec`), so none has to be taken. -/
def switch (w : World) (enable handlersInstalled : Bool) (packetSize : UInt8) : World :=
  w.exchange .mouse k.device traffic (fun s _ => s) fun offline =>
    (setTouchPadEnable offline enable packetSize).bind fun n => pure ⟨n, handlersInstalled⟩

/-- `setDevicePowerState`, if the handler is there. -/
def setDevicePowerState (w : World) (enable : Bool) : World :=
  if w.driver.handlersInstalled then switch k traffic w enable true w.driver.packetSize else w

/-- A driver that is there is not started, and one that is not is not told anything.  The controller tells it
before it goes to sleep, and when it is awake again. -/
def step (w : World) : Happening → World
  | .start => if w.driver.handlersInstalled then w else switch k traffic w true true 3
  | .stop => if w.driver.handlersInstalled then switch k traffic w false false w.driver.packetSize else w
  | .sleep =>
      if w.hardwareOffline then w
      else { setDevicePowerState k traffic w false with hardwareOffline := true }
  | .wake =>
      if w.hardwareOffline then setDevicePowerState k traffic { w with hardwareOffline := false } true else w
  | .powerLost d _ => w.replug d

def run (w : World) (hs : List Happening) : World := hs.foldl (step k traffic) w

end

/-- What has been asked for, and the registers that the pad got with its power. -/
structure Asked extends Attention where
  powered : UInt8 → UInt8

def Asked.step (a : Asked) : Happening → Asked
  | .start => if a.started then a else { a with toAttention := a.start }
  | .stop => if a.started then { a with toAttention := a.stop } else a
  | .sleep => { a with toAttention := a.sleep }
  | .wake => { a with toAttention := a.wake }
  | .powerLost d _ => ⟨a.losePower, d.registers⟩

section

variable {k : FspModel} {traffic : ℕ → List Poll} {w w' : World} {a a' : Asked}

variable (k traffic) in
/-- What holds between two happenings. -/
structure Sound (a : Asked) (w : World) : Prop where
  ready : Ready w.line.device
  handed : w.Handed .mouse traffic []
  installed : w.driver.handlersInstalled = a.started
  offline : w.hardwareOffline = a.asleep
  packetSize : a.started = true →
    w.driver.packetSize = 3 ∨ w.driver.packetSize = if k.identity = 4 then 4 else 3
  streaming : w.line.device.streaming = a.attended
  registers : w.line.device.registers = a.powered ∨ w.line.device.registers = tagged a.powered true
  tags : a.attended = true → w.line.device.registers = tagged a.powered true ∧
    w.line.device.identity = k.identity ∧ w.driver.packetSize = if k.identity = 4 then 4 else 3

/-- The pad is switched on or off by a driver that is there afterwards, or is not. -/
theorem switch_spec (ht : Harmless .mouse traffic) (hw : Sound k traffic a w)
    (hon : w.hardwareOffline = false) {enable handlersInstalled : Bool} {packetSize : UInt8}
    (hsize : handlersInstalled = true → packetSize = 3 ∨ packetSize = if k.identity = 4 then 4 else 3)
    (hstarted : a'.started = handlersInstalled) (hasleep : a'.asleep = a.asleep)
    (hattended : a'.attended = enable) (hpowered : a'.powered = a.powered) :
    Sound k traffic a' (switch k traffic w enable handlersInstalled packetSize) := by
  obtain ⟨d', hleaves, hready, hidentity, hstreaming, hregisters⟩ :=
    leaves_setTouchPadEnable (k := k) hw.ready enable packetSize
  have hall : Leaves .mouse k.device w.line.device
      ((setTouchPadEnable false enable packetSize).bind fun n => pure ⟨n, handlersInstalled⟩)
      (⟨if k.identity = 4 then 4 else packetSize, handlersInstalled⟩ : State) d' :=
    hleaves.bind (leaves_pure _ _)
  have hstream : ((setTouchPadEnable false enable packetSize).bind fun n =>
      pure (⟨n, handlersInstalled⟩ : State)).OnStream .mouse :=
    onStream_bind (onStream_setTouchPadEnable false enable packetSize) fun _ => trivial
  rw [← hon] at hall hstream
  obtain ⟨hdriver, hdevice, hhanded⟩ := Installed.exchange_spec (fun s _ => s) ht hw.handed hstream hall
  have htagged : d'.registers = tagged a'.powered true := by
    rw [hpowered]
    rcases hw.registers with h | h
    · rw [hregisters, h]
    · rw [hregisters, h, tagged_tagged]
  have hnew : handlersInstalled = true →
      (if k.identity = 4 then 4 else packetSize) = if k.identity = 4 then 4 else 3 := by
    intro hs
    split
    · rfl
    · rename_i hother
      rcases hsize hs with h | h
      · exact h
      · rw [h, if_neg hother]
  refine ⟨hdevice ▸ hready, hhanded, (congrArg State.handlersInstalled hdriver).trans hstarted.symm,
    hw.offline.trans hasleep.symm, fun hs => ?_, ?_, ?_, fun ha => ⟨?_, ?_, ?_⟩⟩
  · exact .inr ((congrArg State.packetSize hdriver).trans (hnew (hstarted.symm.trans hs)))
  · exact (congrArg FspPad.streaming hdevice).trans (hstreaming.trans hattended.symm)
  · exact .inr ((congrArg FspPad.registers hdevice).trans htagged)
  · exact (congrArg FspPad.registers hdevice).trans htagged
  · exact (congrArg FspPad.identity hdevice).trans hidentity
  · have hs : a'.started = true := (Attention.attended_iff _ |>.mp ha).1
    exact (congrArg State.packetSize hdriver).trans (hnew (hstarted.symm.trans hs))

/-- While the controller is asleep the driver is changed, and the pad is not. -/
theorem switch_offline (hw : Sound k traffic a w) (hoff : w.hardwareOffline = true)
    {enable handlersInstalled : Bool} {packetSize : UInt8}
    (hsize : handlersInstalled = true → packetSize = 3 ∨ packetSize = if k.identity = 4 then 4 else 3)
    (hstarted : a'.started = handlersInstalled) (hasleep : a'.asleep = a.asleep)
    (hpowered : a'.powered = a.powered) :
    Sound k traffic a' (switch k traffic w enable handlersInstalled packetSize) := by
  have hidle : ((setTouchPadEnable w.hardwareOffline enable packetSize).bind fun n =>
      pure (⟨n, handlersInstalled⟩ : State)).Idles ⟨packetSize, handlersInstalled⟩ := by
    rw [hoff]
    exact (idles_setTouchPadEnable enable packetSize).bind rfl
  have hdown {b : Attention} (hb : b.asleep = a.asleep) : b.attended = false :=
    b.attended_of_asleep (hb.trans (hw.offline.symm.trans hoff))
  rw [switch, Powered.exchange_idle (p := fun offline => (setTouchPadEnable offline enable packetSize).bind
    fun n => pure (⟨n, handlersInstalled⟩ : State)) hidle]
  refine ⟨hw.ready, hw.handed.update _, hstarted.symm, hw.offline.trans hasleep.symm,
    fun hs => hsize (hstarted.symm.trans hs), ?_, ?_, fun hon => ?_⟩
  · exact hw.streaming.trans ((hdown rfl).trans (hdown hasleep).symm)
  · rw [hpowered]
    exact hw.registers
  · exact absurd ((hdown hasleep).symm.trans hon) Bool.false_ne_true

theorem sound_start (ht : Harmless .mouse traffic) (hw : Sound k traffic a w) :
    Sound k traffic { a with toAttention := a.start } (switch k traffic w true true 3) := by
  cases hoff : w.hardwareOffline with
  | true => exact switch_offline hw hoff (fun _ => .inl rfl) rfl rfl rfl
  | false =>
      have hattended : a.start.attended = true :=
        a.start.attended_iff.mpr ⟨rfl, hw.offline.symm.trans hoff, rfl⟩
      exact switch_spec ht hw hoff (fun _ => .inl rfl) rfl rfl hattended rfl

theorem sound_stop (ht : Harmless .mouse traffic) (hw : Sound k traffic a w) :
    Sound k traffic { a with toAttention := a.stop }
      (switch k traffic w false false w.driver.packetSize) := by
  have hnever : false = true → w.driver.packetSize = 3 ∨
      w.driver.packetSize = if k.identity = 4 then 4 else 3 := fun hc => absurd hc Bool.false_ne_true
  cases hoff : w.hardwareOffline with
  | true => exact switch_offline hw hoff hnever rfl rfl rfl
  | false => exact switch_spec ht hw hoff hnever rfl rfl rfl rfl

theorem sound_sleep (ht : Harmless .mouse traffic) (hw : Sound k traffic a w) :
    Sound k traffic { a with toAttention := a.sleep } (step k traffic w .sleep) := by
  have hunattended {P : Prop} (hon : a.sleep.attended = true) : P := by simp at hon
  rw [step]
  cases hoffline : w.hardwareOffline with
  | true =>
      have hquiet := a.attended_of_asleep (hw.offline.symm.trans hoffline)
      rw [if_pos rfl]
      exact ⟨hw.ready, hw.handed, hw.installed, hoffline, hw.packetSize,
        hw.streaming.trans (hquiet.trans a.attended_sleep.symm), hw.registers, hunattended⟩
  | false =>
      rw [if_neg Bool.false_ne_true, setDevicePowerState]
      split
      · rename_i hinstalled
        -- the pad is silent before the controller is asleep
        have hs : a.started = true := hw.installed.symm.trans hinstalled
        have hsilent : Sound k traffic { a with toAttention := a.losePower }
            (switch k traffic w false true w.driver.packetSize) :=
          switch_spec ht hw hoffline (fun _ => hw.packetSize hs) hs rfl a.attended_losePower rfl
        exact ⟨hsilent.ready, hsilent.handed, hsilent.installed, rfl, hsilent.packetSize,
          hsilent.streaming.trans (a.attended_losePower.trans a.attended_sleep.symm), hsilent.registers,
          hunattended⟩
      · rename_i hnone
        rw [hw.installed, Bool.not_eq_true] at hnone
        have hquiet := a.attended_of_not_started hnone
        exact ⟨hw.ready, hw.handed, hw.installed, rfl, hw.packetSize,
          hw.streaming.trans (hquiet.trans a.attended_sleep.symm), hw.registers, hunattended⟩

theorem sound_wake (ht : Harmless .mouse traffic) (hw : Sound k traffic a w) :
    Sound k traffic { a with toAttention := a.wake } (step k traffic w .wake) := by
  rw [step, hw.offline, Attention.wake]
  cases hasleep : a.asleep with
  | false => exact hw
  | true =>
      rw [if_pos rfl, if_pos rfl, setDevicePowerState]
      have hquiet := a.attended_of_asleep hasleep
      -- the controller is awake before the driver is told
      let awake : Attention := { started := a.started, asleep := false, cutOff := true }
      have hdown : awake.attended = false := by simp [Attention.attended, awake]
      have hawake : Sound k traffic { a with toAttention := awake } { w with hardwareOffline := false } :=
        ⟨hw.ready, hw.handed, hw.installed, rfl, hw.packetSize, hw.streaming.trans (hquiet.trans hdown.symm),
          hw.registers, fun hon => absurd (hdown.symm.trans hon) Bool.false_ne_true⟩
      split
      · rename_i hinstalled
        have hs : a.started = true := hw.installed.symm.trans hinstalled
        refine switch_spec ht hawake rfl (fun _ => hw.packetSize hs) hs rfl ?_ rfl
        exact (Attention.attended_iff _).mpr ⟨hs, rfl, rfl⟩
      · rename_i hnone
        rw [hw.installed, Bool.not_eq_true] at hnone
        have hunattended := Attention.attended_of_not_started ⟨a.started, false, false⟩ hnone
        exact ⟨hw.ready, hw.handed, hw.installed, rfl, hw.packetSize,
          hw.streaming.trans (hquiet.trans hunattended.symm), hw.registers,
          fun hon => absurd (hunattended.symm.trans hon) Bool.false_ne_true⟩

theorem sound_step (ht : Harmless .mouse traffic) (hw : Sound k traffic a w) (h : Happening) :
    Sound k traffic (a.step h) (step k traffic w h) := by
  cases h with
  | start =>
      rw [Asked.step, step, hw.installed]
      split
      · exact hw
      · exact sound_start ht hw
  | stop =>
      rw [Asked.step, step, hw.installed]
      split
      · exact sound_stop ht hw
      · exact hw
  | sleep => exact sound_sleep ht hw
  | wake => exact sound_wake ht hw
  | powerLost d hd =>
      exact ⟨hd.1, hw.handed.replug d, hw.installed, hw.offline, hw.packetSize,
        hd.2.trans a.attended_losePower.symm, .inl rfl,
        fun hon => absurd (a.attended_losePower.symm.trans hon) Bool.false_ne_true⟩

theorem sound_run (ht : Harmless .mouse traffic) (hs : List Happening) (hw : Sound k traffic a w) :
    Sound k traffic (hs.foldl Asked.step a) (run k traffic w hs) := by
  induction hs generalizing a w with
  | nil => exact hw
  | cons h hs ih => exact ih (sound_step ht hw h)

end

/-- The pad is cut off in its sleep, and comes back with other registers; the driver is started again before
the controller is awake. -/
def throughSleep : List Happening :=
  [.start, .sleep, .powerLost { poweredOn with registers := fun _ => 0x11 } ⟨⟨rfl, rfl⟩, rfl⟩, .stop,
    .start, .wake]

end Live

end VoodooPS2.Sentelic
