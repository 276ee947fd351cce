import Sctl.InfraNetworks
import Sctl.ShellWords

/-!
Parameters of the infrastructure checks on their way into commands (`server/src/infra/checks.rs`
and `discovery.rs`): the validators, the argument vectors and the `sh -c` lines. Each
command is compared with a template that has holes where the parameters stand.
-/
namespace Sctl.InfraParameters
open Texts InfraNetworks ShellWords

abbrev Text := List Char

/-! ### The validators -/

/-- `char::is_alphanumeric`. Which characters beyond ASCII it holds of is left open. -/
structure Alphanumeric where
  holds : Char → Bool
  ascii : ∀ c, c.toNat < 128 → holds c = c.isAlphanum

def decimal (n : Nat) : Text := Nat.toDigits 10 n

/-- `validate_host`. -/
def validateHost (alphanumeric : Alphanumeric) (host : Text) : Except Text Unit :=
  if host.isEmpty || 253 < byteLength host then .error ("invalid host length: ".toList ++ decimal (byteLength host))
  else if !host.all fun c => alphanumeric.holds c || ['.',':','-','_'].contains c then
    .error ("host contains invalid characters: ".toList ++ host)
  else .ok ()

/-- `validate_community`. -/
def validateCommunity (alphanumeric : Alphanumeric) (community : Text) : Except Text Unit :=
  if community.isEmpty || 64 < byteLength community then
    .error ("invalid community length: ".toList ++ decimal (byteLength community))
  else if !community.all fun c => alphanumeric.holds c || ['-','_','.','!','@','#'].contains c then
    .error ("community contains invalid characters: ".toList ++ community)
  else .ok ()

/-- `validate_ipv4`. -/
def validateIpv4 (ip : Text) : Bool :=
  let octets := ip.splitOn '.'
  octets.length == 4 && octets.all fun o => (fromStrRadix 10 (2 ^ 8) o).isSome

/-- `validate_cidr`. -/
def validateCidr (s : Text) : Bool :=
  match splitOnce '/' s with
  | none => false
  | some (ip,length) => validateIpv4 ip && (fromStrRadix 10 (2 ^ 8) length).any fun p => decide (p ≤ 32)

/-- The check of an interface's name, in both places. -/
def validateIface (iface : Text) : Bool := iface.all fun c => c.isAlphanum || c == '-' || c == '_' || c == '.'

/-! ### The commands -/

/-- The seconds that are given to a command. -/
def timeoutSecs (timeoutMs : Option Nat) (otherwise : Nat) : Text := decimal (max (timeoutMs.getD otherwise / 1000) 1)

/-- What `check_ping` executes; an error is the detail of its result. -/
def checkPing (alphanumeric : Alphanumeric) (host : Text) (timeoutMs : Option Nat) : Except Text (List Text) :=
  match validateHost alphanumeric host with
  | .error e => .error ("PING INVALID: ".toList ++ e)
  | .ok () => .ok ["ping".toList,"-c".toList,"1".toList,"-W".toList,timeoutSecs timeoutMs 2000,host]

/-- What `check_tcp` executes. -/
def checkTcp (alphanumeric : Alphanumeric) (host : Text) (port : Nat) (timeoutMs : Option Nat) : Except Text (List Text) :=
  match validateHost alphanumeric host with
  | .error e => .error ("TCP INVALID: ".toList ++ e)
  | .ok () => .ok ["nc".toList,"-z".toList,"-w".toList,timeoutSecs timeoutMs 5000,host,decimal port]

/-- What `check_snmp` executes. -/
def checkSnmp (alphanumeric : Alphanumeric) (host community : Text) (timeoutMs : Option Nat) : Except Text (List Text) :=
  match validateHost alphanumeric host with
  | .error e => .error ("SNMP INVALID: ".toList ++ e)
  | .ok () =>
    match validateCommunity alphanumeric community with
    | .error e => .error ("SNMP INVALID: ".toList ++ e)
    | .ok () => .ok ["snmpget".toList,"-v2c".toList,"-c".toList,community,"-t".toList,timeoutSecs timeoutMs 5000,"-r".toList,
        "0".toList,host,".1.3.6.1.2.1.1.1.0".toList]

/-- What `resolve_hostname` executes. -/
def resolveHostname (ip : Text) : Except Text (List Text) :=
  if validateIpv4 ip then .ok ["nslookup".toList,ip] else .error ("invalid IP: ".toList ++ ip)

/-- The line of `sniff_iface`; an interface with another name is not sniffed. -/
def sniffIface (iface : Text) (secs : Nat) : Option Text :=
  if validateIface iface then
    let filter := "arp or (udp and (port 67 or ".toList ++ "port 68 or port 5353 or ".toList ++ "port 1900 or port 137 or ".toList ++
      "port 138 or portrange 5245-5246))".toList
    let tmp := "/tmp/sctl-sniff-".toList ++ iface ++ ".out".toList
    some ("command -v tcpdump >/dev/null ".toList ++ "2>&1 && ( tcpdump -i ".toList ++ iface ++ " -nn -l -c 200 '".toList ++ filter ++
      "' > ".toList ++ tmp ++ " 2>/dev/null & P=$!; sleep ".toList ++ decimal secs ++ "; kill -TERM $P 2>/dev/null; ".toList ++
      "wait $P 2>/dev/null; cat ".toList ++ tmp ++ " 2>/dev/null; rm -f ".toList ++ tmp ++ " )".toList)
  else none

/-- The line of `arp_scan_addressless`. -/
def arpScanAddressless (iface cidr : Text) : Except Text Text :=
  if !validateCidr cidr then .error ("invalid cidr: ".toList ++ cidr)
  else if !validateIface iface then .error ("invalid iface: ".toList ++ iface)
  else .ok ("command -v arp-scan >/dev/null ".toList ++ "2>&1 && arp-scan --interface=".toList ++ iface ++ " --arpspa=0.0.0.0 ".toList ++
    "--destaddr=ff:ff:ff:ff:ff:ff ".toList ++ "--retry=2 --timeout=300 ".toList ++ cidr ++ " 2>/dev/null".toList)

/-- The line with which `ping_sweep` begins. -/
def pingSweepNmap (subnet : Text) : Except Text Text :=
  if validateCidr subnet then
    .ok ("command -v nmap >/dev/null ".toList ++ "2>&1 && nmap -sn -n ".toList ++ subnet ++ " -oG - 2>/dev/null | ".toList ++
      "grep 'Status: Up' | awk '\x7bprint $2\x7d'".toList)
  else .error ("invalid subnet CIDR: ".toList ++ subnet)

/-- The part of a subnet before its last octet, from `rsplit_once`. -/
def sweepBase (subnet : Text) : Text :=
  match splitOnce '.' ((subnet.splitOn '/').headD []).reverse with
  | none => []
  | some (_,before) => before.reverse

/-- The address that `ping_sweep` pings as its `i`th. -/
def sweepIp (subnet : Text) (i : Nat) : Text := sweepBase subnet ++ '.' :: decimal i

/-- The line with which `ping_sweep` pings it. -/
def pingSweepPing (subnet : Text) (i : Nat) : Except Text Text :=
  if !validateCidr subnet then .error ("invalid subnet CIDR: ".toList ++ subnet)
  else if (sweepBase subnet).isEmpty then .error ("cannot extract base from subnet: ".toList ++ subnet)
  else .ok ("ping -c 1 -W 1 ".toList ++ sweepIp subnet i ++ " >/dev/null 2>&1 && echo UP".toList)

/-! ### Commands with holes -/

inductive Command
  /-- A program and its arguments. -/
  | argv (words : List Text)
  /-- The argument of `sh -c`. -/
  | shell (line : Text)

/-- Which characters mean something to the shell outside quotes. -/
def charKind (c : Char) : Kind :=
  if c = ' ' ∨ c = '\t' then .blank
  else if c = '\n' then .newline
  else if c ∈ ['&',';','|','<','>','(',')'] then .operator
  else if c = '\'' then .quote
  else if c = '#' then .hash
  else if c ∈ ['"','\\','`'] then .unread
  else .plain

/-- The characters that a shell may treat as more than themselves. -/
def specials : List Char :=
  ['|','&',';','<','>','(',')','$','`','\\','"','\'',' ','\t','\n','*','?','[',']','#','~','=','%','!','\x7b','\x7d','^']

def Command.tokens : Command → Option (List (Token Char))
  | .argv words => some (words.map .word)
  | .shell line => lex charKind line

/-- A character of a command, or a place for a parameter. -/
inductive Sym
  | char (c : Char)
  | hole (i : Nat)
deriving DecidableEq

def symKind : Sym → Kind
  | .char c => charKind c
  | .hole _ => .plain

def fillSym (fill : Nat → Text) : Sym → Text
  | .char c => [c]
  | .hole i => fill i

inductive Template
  | argv (words : List (List Sym))
  | shell (line : List Sym)

def Template.command (fill : Nat → Text) : Template → Command
  | .argv words => .argv (words.map fun word => word.flatMap (fillSym fill))
  | .shell line => .shell (line.flatMap (fillSym fill))

/-- The words and operators around and with the holes. -/
def Template.shape : Template → Option (List (Token Sym))
  | .argv words => some (words.map .word)
  | .shell line => lex symKind line

/-- The hole is a word of its own. -/
def Template.alone (t : Template) (i : Nat) : Bool := t.shape.any fun shape => shape.contains (.word [.hole i])

def lit (text : String) : List Sym := text.toList.map .char

/-- Where a parameter goes. -/
inductive Use
  | pingHost (timeoutMs : Option Nat)
  | tcpHost (port : Nat) (timeoutMs : Option Nat)
  | snmpHost (community : Text) (timeoutMs : Option Nat)
  | snmpCommunity (host : Text) (timeoutMs : Option Nat)
  | nslookupIp
  | nmapSubnet
  | sweepSubnet (i : Nat)
  | arpCidr (iface : Text)
  | arpIface (cidr : Text)
  | sniffIface (secs : Nat)

/-- The command that the code builds, if it accepts the parameter. -/
def Use.build (alphanumeric : Alphanumeric) : Use → Text → Option Command
  | .pingHost timeoutMs,host => (checkPing alphanumeric host timeoutMs).toOption.map .argv
  | .tcpHost port timeoutMs,host => (checkTcp alphanumeric host port timeoutMs).toOption.map .argv
  | .snmpHost community timeoutMs,host => (checkSnmp alphanumeric host community timeoutMs).toOption.map .argv
  | .snmpCommunity host timeoutMs,community => (checkSnmp alphanumeric host community timeoutMs).toOption.map .argv
  | .nslookupIp,ip => (resolveHostname ip).toOption.map .argv
  | .nmapSubnet,subnet => (pingSweepNmap subnet).toOption.map .shell
  | .sweepSubnet i,subnet => (pingSweepPing subnet i).toOption.map .shell
  | .arpCidr iface,cidr => (arpScanAddressless iface cidr).toOption.map .shell
  | .arpIface cidr,iface => (arpScanAddressless iface cidr).toOption.map .shell
  | .sniffIface secs,iface => (InfraParameters.sniffIface iface secs).map .shell

def snmpTemplate : Template :=
  .argv [lit "snmpget",lit "-v2c",lit "-c",[.hole 1],lit "-t",[.hole 2],lit "-r",lit "0",[.hole 0],lit ".1.3.6.1.2.1.1.1.0"]

def arpLine : List Sym :=
  lit "command -v arp-scan >/dev/null " ++ lit "2>&1 && arp-scan --interface=" ++ .hole 1 :: lit " --arpspa=0.0.0.0 " ++
    lit "--destaddr=ff:ff:ff:ff:ff:ff " ++ lit "--retry=2 --timeout=300 " ++ .hole 0 :: lit " 2>/dev/null"

def sniffLine : List Sym :=
  let tmp := lit "/tmp/sctl-sniff-" ++ .hole 0 :: lit ".out"
  let filter := lit "arp or (udp and (port 67 or " ++ lit "port 68 or port 5353 or " ++ lit "port 1900 or port 137 or " ++
    lit "port 138 or portrange 5245-5246))"
  lit "command -v tcpdump >/dev/null " ++ lit "2>&1 && ( tcpdump -i " ++ .hole 0 :: lit " -nn -l -c 200 '" ++ filter ++ lit "' > " ++
    tmp ++ lit " 2>/dev/null & P=$!; sleep " ++ .hole 1 :: lit "; kill -TERM $P 2>/dev/null; " ++ lit "wait $P 2>/dev/null; cat " ++
    tmp ++ lit " 2>/dev/null; rm -f " ++ tmp ++ lit " )"

/-- The command with its holes: where the parameter stands, and what else is filled in. -/
def Use.template : Use → Template
  | .pingHost _ => .argv [lit "ping",lit "-c",lit "1",lit "-W",[.hole 1],[.hole 0]]
  | .tcpHost _ _ => .argv [lit "nc",lit "-z",lit "-w",[.hole 1],[.hole 0],[.hole 2]]
  | .snmpHost _ _ => snmpTemplate
  | .snmpCommunity _ _ => snmpTemplate
  | .nslookupIp => .argv [lit "nslookup",[.hole 0]]
  | .nmapSubnet => .shell (lit "command -v nmap >/dev/null " ++ lit "2>&1 && nmap -sn -n " ++ .hole 0 ::
      lit " -oG - 2>/dev/null | " ++ lit "grep 'Status: Up' | awk '\x7bprint $2\x7d'")
  | .sweepSubnet _ => .shell (lit "ping -c 1 -W 1 " ++ .hole 0 :: lit " >/dev/null 2>&1 && echo UP")
  | .arpCidr _ => .shell arpLine
  | .arpIface _ => .shell arpLine
  | .sniffIface _ => .shell sniffLine

/-- The hole of the parameter. -/
def Use.hole : Use → Nat
  | .snmpCommunity _ _ => 1
  | .arpIface _ => 1
  | _ => 0

/-- What is filled in; of a subnet that is swept it is an address. -/
def Use.fill : Use → Text → Nat → Text
  | .pingHost _,host,0 => host
  | .pingHost timeoutMs,_,1 => timeoutSecs timeoutMs 2000
  | .tcpHost _ _,host,0 => host
  | .tcpHost _ timeoutMs,_,1 => timeoutSecs timeoutMs 5000
  | .tcpHost port _,_,2 => decimal port
  | .snmpHost _ _,host,0 => host
  | .snmpHost community _,_,1 => community
  | .snmpHost _ timeoutMs,_,2 => timeoutSecs timeoutMs 5000
  | .snmpCommunity host _,_,0 => host
  | .snmpCommunity _ _,community,1 => community
  | .snmpCommunity _ timeoutMs,_,2 => timeoutSecs timeoutMs 5000
  | .nslookupIp,ip,0 => ip
  | .nmapSubnet,subnet,0 => subnet
  | .sweepSubnet i,subnet,0 => sweepIp subnet i
  | .arpCidr _,cidr,0 => cidr
  | .arpCidr iface,_,1 => iface
  | .arpIface cidr,_,0 => cidr
  | .arpIface _,iface,1 => iface
  | .sniffIface _,iface,0 => iface
  | .sniffIface secs,_,1 => decimal secs
  | _,_,_ => ['-']

/-- The parameter is part of exactly one word wherever it stands, has no special character, and
    does not begin with a hyphen where it is an argument of its own. -/
structure Carried (use : Use) (x : Text) (command : Command) : Prop where
  words : ∃ shape, use.template.shape = some shape ∧
    command.tokens = some (shape.map (Token.fill (fillSym (use.fill x))))
  plain : ∀ c ∈ use.fill x use.hole, c ∉ specials
  argument : use.template.alone use.hole = true → (use.fill x use.hole).head? ≠ some '-'

/-- A host and a community do not begin with a hyphen, and a community has no exclamation mark and
    no hash; an interface that is sniffed has a name that does not begin with a hyphen. -/
def Use.Safe : Use → Text → Prop
  | .pingHost _,host => host.head? ≠ some '-'
  | .tcpHost _ _,host => host.head? ≠ some '-'
  | .snmpHost _ _,host => host.head? ≠ some '-'
  | .snmpCommunity _ _,community => community.head? ≠ some '-' ∧ '!' ∉ community ∧ '#' ∉ community
  | .sniffIface _,iface => iface ≠ [] ∧ iface.head? ≠ some '-'
  | _,_ => True

/-! ### Which characters a parameter can have -/

theorem kind_of_plain {c : Char} (plain : c ∉ specials) : charKind c = .plain := by
  simp only [specials,List.mem_cons,List.not_mem_nil,or_false,not_or] at plain
  simp [charKind,plain]

/-- What is alphanumeric, or one of a few characters that are not special, is not special. -/
theorem not_special {alphanumeric : Alphanumeric} {extra : List Char} {c : Char}
    (apart : ∀ s ∈ specials, s.toNat < 128 ∧ s.isAlphanum = false ∧ extra.contains s = false)
    (allowed : (alphanumeric.holds c || extra.contains c) = true) : c ∉ specials := by
  intro special
  obtain ⟨low,noLetter,other⟩ := apart c special
  rw [alphanumeric.ascii c low,noLetter,other] at allowed
  cases allowed

theorem host_plain {alphanumeric : Alphanumeric} {host : Text} (accepted : validateHost alphanumeric host = .ok ()) :
    ∀ c ∈ host, c ∉ specials := by
  intro c member
  simp only [validateHost] at accepted
  split at accepted
  · cases accepted
  split at accepted
  · cases accepted
  · next all =>
    rw [Bool.not_eq_true,Bool.not_eq_false',List.all_eq_true] at all
    exact not_special (forall_of_all (by decide)) (all c member)

/-- Of the special characters a community can have two. -/
theorem community_plain {alphanumeric : Alphanumeric} {community : Text}
    (accepted : validateCommunity alphanumeric community = .ok ()) {c : Char} (member : c ∈ community) (bang : c ≠ '!')
    (hash : c ≠ '#') : c ∉ specials := by
  simp only [validateCommunity] at accepted
  split at accepted
  · cases accepted
  split at accepted
  · cases accepted
  · next all =>
    rw [Bool.not_eq_true,Bool.not_eq_false',List.all_eq_true] at all
    have allowed : (alphanumeric.holds c || ['-','_','.','@'].contains c) = true := by simpa [bang,hash] using all c member
    exact not_special (forall_of_all (by decide)) allowed

theorem iface_plain {iface : Text} (accepted : validateIface iface = true) : ∀ c ∈ iface, c ∉ specials := by
  intro c member special
  have allowed := List.all_eq_true.mp accepted c member
  have refused : ∀ s ∈ specials, (s.isAlphanum || s == '-' || s == '_' || s == '.') = false := forall_of_all (by decide)
  rw [refused c special] at allowed
  cases allowed

/-- What an address or a subnet consists of. -/
def Numeric (text : Text) : Prop := ∀ c ∈ text, c.isDigit = true ∨ c ∈ ['+','.','/']

theorem Numeric.plain {text : Text} (numeric : Numeric text) : ∀ c ∈ text, c ∉ specials := by
  intro c member special
  have refused : ∀ s ∈ specials, ¬ (s.isDigit = true ∨ s ∈ ['+','.','/']) := forall_of_all (by decide)
  exact refused c special (numeric c member)

theorem Numeric.head {text : Text} (numeric : Numeric text) : text.head? ≠ some '-' := by
  intro first
  exact absurd (numeric '-' (List.mem_of_head? first)) (by decide)

theorem isDigit_of_toDigit {c : Char} {n : Nat} (digit : toDigit 10 c = some n) : c.isDigit = true := by
  simp only [toDigit] at digit
  have range : '0'.toNat ≤ c.toNat ∧ c.toNat ≤ '9'.toNat := by
    by_contra outside
    rw [if_neg outside] at digit
    split_ifs at digit <;> omega
  simp only [Char.isDigit,Bool.and_eq_true,decide_eq_true_eq,ge_iff_le,UInt32.le_iff_toNat_le]
  exact range

theorem readDigits_digits {limit value n : Nat} {text : Text} (read : readDigits 10 limit value text = some n) :
    ∀ c ∈ text, c.isDigit = true := by
  induction text generalizing value with
  | nil => exact fun c member => absurd member List.not_mem_nil
  | cons d rest ih =>
    rw [readDigits,Option.bind_eq_some_iff] at read
    obtain ⟨digit,first,read⟩ := read
    rw [Option.ite_none_right_eq_some] at read
    exact List.forall_mem_cons.mpr ⟨isDigit_of_toDigit first,ih read.2⟩

/-- What the parser of a number accepts: digits, perhaps behind a plus sign. -/
theorem fromStrRadix_numeric {limit : Nat} {text : Text} (parsed : (fromStrRadix 10 limit text).isSome = true) : Numeric text := by
  obtain ⟨n,read⟩ := Option.isSome_iff_exists.mp parsed
  unfold fromStrRadix at read
  split at read
  · cases read
  · cases read
  · intro c member
    rcases List.mem_cons.mp member with rfl | member
    · exact .inr (by decide)
    · exact .inl (readDigits_digits read c member)
  · exact fun c member => .inl (readDigits_digits read c member)

/-- A character of a text that is split is the mark or stands in a part. -/
theorem mem_splitOn {mark c : Char} {text : Text} (member : c ∈ text) : c = mark ∨ ∃ part ∈ text.splitOn mark, c ∈ part := by
  induction text with
  | nil => cases member
  | cons d rest ih =>
    rw [List.splitOn_cons_eq_if_modifyHead]
    by_cases here : d = mark
    · rw [if_pos (beq_iff_eq.mpr here)]
      rcases List.mem_cons.mp member with rfl | member
      · exact .inl here
      · exact (ih member).imp_right fun ⟨part,found,inside⟩ => ⟨part,List.mem_cons_of_mem _ found,inside⟩
    · rw [if_neg (by simpa using here)]
      obtain ⟨first,parts,shape⟩ := List.exists_cons_of_ne_nil (List.splitOn_ne_nil mark rest)
      rw [shape] at ih ⊢
      rw [List.modifyHead_cons]
      rcases List.mem_cons.mp member with rfl | member
      · exact .inr ⟨_,List.mem_cons_self,List.mem_cons_self⟩
      · refine (ih member).imp_right fun ⟨part,found,inside⟩ => ?_
        rcases List.mem_cons.mp found with rfl | found
        · exact ⟨_,List.mem_cons_self,List.mem_cons_of_mem d inside⟩
        · exact ⟨part,List.mem_cons_of_mem _ found,inside⟩

theorem ipv4_numeric {ip : Text} (accepted : validateIpv4 ip = true) : ip ≠ [] ∧ Numeric ip := by
  simp only [validateIpv4,Bool.and_eq_true,beq_iff_eq,List.all_eq_true] at accepted
  refine ⟨?_,fun c member => ?_⟩
  · rintro rfl
    exact absurd accepted.1 (by decide)
  · rcases @mem_splitOn '.' c ip member with rfl | ⟨part,found,inside⟩
    · exact .inr (by decide)
    · exact fromStrRadix_numeric (accepted.2 part found) c inside

theorem splitOnce_eq_some {mark : Char} {text before after : Text} (found : splitOnce mark text = some (before,after)) :
    text = before ++ mark :: after ∧ mark ∉ before := by
  induction text generalizing before with
  | nil => cases found
  | cons c rest ih =>
    rw [splitOnce] at found
    split at found
    · next here =>
      cases found
      exact ⟨by rw [here]; rfl,List.not_mem_nil⟩
    · next other =>
      obtain ⟨parts,inner,same⟩ := Option.map_eq_some_iff.mp found
      cases same
      obtain ⟨whole,free⟩ := ih inner
      exact ⟨by rw [whole]; rfl,fun member => (List.mem_cons.mp member).elim (fun same => other same.symm) free⟩

/-- A subnet is an address, a slash and a number. -/
theorem cidr_parts {s : Text} (accepted : validateCidr s = true) :
    ∃ ip length, s = ip ++ '/' :: length ∧ '/' ∉ ip ∧ Numeric ip ∧ Numeric length := by
  rw [validateCidr] at accepted
  cases found : splitOnce '/' s with
  | none => rw [found] at accepted; cases accepted
  | some parts =>
    obtain ⟨ip,length⟩ := parts
    rw [found] at accepted
    simp only [Bool.and_eq_true,Option.any_eq_true] at accepted
    obtain ⟨whole,free⟩ := splitOnce_eq_some found
    obtain ⟨n,read,-⟩ := accepted.2
    exact ⟨ip,length,whole,free,(ipv4_numeric accepted.1).2,fromStrRadix_numeric (by rw [read]; rfl)⟩

theorem cidr_numeric {s : Text} (accepted : validateCidr s = true) : s ≠ [] ∧ Numeric s := by
  obtain ⟨ip,length,rfl,-,first,second⟩ := cidr_parts accepted
  refine ⟨by simp,fun c member => ?_⟩
  rcases List.mem_append.mp member with member | member
  · exact first c member
  · rcases List.mem_cons.mp member with rfl | member
    · exact .inr (by decide)
    · exact second c member

theorem decimal_plain (n : Nat) : decimal n ≠ [] ∧ Numeric (decimal n) :=
  ⟨Nat.toDigits_ne_nil,fun _ member => .inl (Nat.isDigit_of_mem_toDigits (by decide) (by decide) member)⟩

theorem sweepIp_numeric {subnet : Text} (accepted : validateCidr subnet = true) (i : Nat) :
    sweepIp subnet i ≠ [] ∧ Numeric (sweepIp subnet i) := by
  obtain ⟨ip,length,rfl,free,first,-⟩ := cidr_parts accepted
  have base : Numeric (sweepBase (ip ++ '/' :: length)) := by
    intro c member
    rw [sweepBase,List.splitOn_append_cons_self_of_not_mem free,List.headD_cons] at member
    split at member
    · cases member
    · next _ before found =>
      have whole := congrArg List.reverse (splitOnce_eq_some found).1
      rw [List.reverse_reverse] at whole
      refine first c ?_
      rw [whole]
      simp only [List.reverse_append,List.reverse_cons,List.mem_append]
      exact .inl (.inl member)
  refine ⟨by simp [sweepIp],fun c member => ?_⟩
  rcases List.mem_append.mp member with member | member
  · exact base c member
  · rcases List.mem_cons.mp member with rfl | member
    · exact .inr (by decide)
    · exact (decimal_plain i).2 c member

/-! ### The commands are their templates, filled -/

theorem lit_fill (fill : Nat → Text) (text : String) : (lit text).flatMap (fillSym fill) = text.toList := by
  rw [lit,List.flatMap_map]
  exact List.flatMap_singleton' text.toList

theorem hole_fill (fill : Nat → Text) (i : Nat) : [Sym.hole i].flatMap (fillSym fill) = fill i := List.append_nil _

/-- The line of the scan, which needs both its parameters accepted. -/
theorem arp_spec {iface cidr : Text} {command : Command} (built : (arpScanAddressless iface cidr).toOption.map .shell = some command) :
    (validateCidr cidr = true ∧ validateIface iface = true) ∧
      command = .shell ("command -v arp-scan >/dev/null ".toList ++ "2>&1 && arp-scan --interface=".toList ++ iface ++ " --arpspa=0.0.0.0 ".toList ++
        "--destaddr=ff:ff:ff:ff:ff:ff ".toList ++ "--retry=2 --timeout=300 ".toList ++ cidr ++ " 2>/dev/null".toList) := by
  rw [arpScanAddressless] at built
  split at built
  · cases built
  · next subnet =>
    split at built
    · cases built
    · next name =>
      cases built
      exact ⟨⟨by simpa using subnet,by simpa using name⟩,rfl⟩

/-- What the code has checked when it builds the command. -/
def Use.Accepted (alphanumeric : Alphanumeric) : Use → Text → Prop
  | .pingHost _,host => validateHost alphanumeric host = .ok ()
  | .tcpHost _ _,host => validateHost alphanumeric host = .ok ()
  | .snmpHost _ _,host => validateHost alphanumeric host = .ok ()
  | .snmpCommunity _ _,community => validateCommunity alphanumeric community = .ok ()
  | .nslookupIp,ip => validateIpv4 ip = true
  | .nmapSubnet,subnet => validateCidr subnet = true
  | .sweepSubnet _,subnet => validateCidr subnet = true
  | .arpCidr iface,cidr => validateCidr cidr = true ∧ validateIface iface = true
  | .arpIface cidr,iface => validateCidr cidr = true ∧ validateIface iface = true
  | .sniffIface _,iface => validateIface iface = true

/-- What the code builds is its template with the parameters filled in. -/
theorem build_spec {alphanumeric : Alphanumeric} {use : Use} {x : Text} {command : Command}
    (built : use.build alphanumeric x = some command) :
    use.Accepted alphanumeric x ∧ command = use.template.command (use.fill x) := by
  cases use with
  | pingHost timeoutMs =>
    simp only [Use.build,checkPing] at built
    split at built
    · cases built
    · next accepted =>
      cases built
      exact ⟨accepted,by simp only [Use.template,Template.command,List.map_cons,List.map_nil,lit_fill,hole_fill,Use.fill]⟩
  | tcpHost port timeoutMs =>
    simp only [Use.build,checkTcp] at built
    split at built
    · cases built
    · next accepted =>
      cases built
      exact ⟨accepted,by simp only [Use.template,Template.command,List.map_cons,List.map_nil,lit_fill,hole_fill,Use.fill]⟩
  | snmpHost community timeoutMs =>
    simp only [Use.build,checkSnmp] at built
    split at built
    · cases built
    · next accepted =>
      split at built <;> cases built
      exact ⟨accepted,by simp only [Use.template,snmpTemplate,Template.command,List.map_cons,List.map_nil,lit_fill,hole_fill,Use.fill]⟩
  | snmpCommunity host timeoutMs =>
    simp only [Use.build,checkSnmp] at built
    split at built
    · cases built
    split at built
    · cases built
    · next accepted =>
      cases built
      exact ⟨accepted,by simp only [Use.template,snmpTemplate,Template.command,List.map_cons,List.map_nil,lit_fill,hole_fill,Use.fill]⟩
  | nslookupIp =>
    simp only [Use.build,resolveHostname] at built
    split at built
    · next accepted =>
      cases built
      exact ⟨accepted,by simp only [Use.template,Template.command,List.map_cons,List.map_nil,lit_fill,hole_fill,Use.fill]⟩
    · cases built
  | nmapSubnet =>
    simp only [Use.build,pingSweepNmap] at built
    split at built
    · next accepted =>
      cases built
      exact ⟨accepted,by simp only [Use.template,Template.command,List.flatMap_append,List.flatMap_cons,lit_fill,fillSym,Use.fill,
        List.append_assoc]⟩
    · cases built
  | sweepSubnet i =>
    simp only [Use.build,pingSweepPing] at built
    split at built
    · cases built
    · next accepted =>
      split at built <;> cases built
      exact ⟨show validateCidr x = true by simpa using accepted,by simp only [Use.template,Template.command,List.flatMap_append,
        List.flatMap_cons,lit_fill,fillSym,Use.fill,List.append_assoc]⟩
  | arpCidr iface =>
    obtain ⟨accepted,rfl⟩ := arp_spec built
    exact ⟨accepted,by simp only [Use.template,arpLine,Template.command,List.flatMap_append,List.flatMap_cons,lit_fill,fillSym,
      Use.fill,List.append_assoc]⟩
  | arpIface cidr =>
    obtain ⟨accepted,rfl⟩ := arp_spec built
    exact ⟨accepted,by simp only [Use.template,arpLine,Template.command,List.flatMap_append,List.flatMap_cons,lit_fill,fillSym,
      Use.fill,List.append_assoc]⟩
  | sniffIface secs =>
    simp only [Use.build,InfraParameters.sniffIface] at built
    split at built
    · next accepted =>
      cases built
      exact ⟨accepted,by simp only [Use.template,sniffLine,Template.command,List.flatMap_append,List.flatMap_cons,lit_fill,fillSym,
        Use.fill,List.append_assoc]⟩
    · cases built

/-! ### Parameters stay in their words -/

theorem argv_words (words : List (List Sym)) (fill : Nat → Text) : ∃ shape, (Template.argv words).shape = some shape ∧
    ((Template.argv words).command fill).tokens = some (shape.map (Token.fill (fillSym fill))) := by
  refine ⟨_,rfl,?_⟩
  simp only [Template.command,Command.tokens,List.map_map,Function.comp_def,Token.fill]

/-- Every hole is filled by plain text. -/
def Plain (fill : Nat → Text) : Prop := ∀ i, fill i ≠ [] ∧ ∀ c ∈ fill i, c ∉ specials

theorem Plain.fills {fill : Nat → Text} (plain : Plain fill) : Fills symKind charKind (fillSym fill) where
  plain a kind := by
    cases a with
    | char c => exact ⟨List.cons_ne_nil c [],fun b member => by rw [List.mem_singleton.mp member]; exact kind⟩
    | hole i => exact ⟨(plain i).1,fun b member => kind_of_plain ((plain i).2 b member)⟩
  other a kind := by
    cases a with
    | char c => exact ⟨c,rfl,rfl⟩
    | hole i => exact absurd rfl kind

theorem shell_words {line : List Sym} {fill : Nat → Text} (plain : Plain fill) (lexed : (lex symKind line).isSome = true) :
    ∃ shape, (Template.shell line).shape = some shape ∧
      ((Template.shell line).command fill).tokens = some (shape.map (Token.fill (fillSym fill))) := by
  obtain ⟨shape,found⟩ := Option.isSome_iff_exists.mp lexed
  refine ⟨shape,found,?_⟩
  simp only [Template.command,Command.tokens,lex_fill plain.fills,found,Option.map_some]

/-! ### A hole that is filled by nothing -/

/-- The line without the hole. -/
def without (i : Nat) (line : List Sym) : List Sym := line.filter (· ≠ .hole i)

def tokenWithout (i : Nat) : Token Sym → Token Sym
  | .word text => .word (without i text)
  | .operator text => .operator (without i text)

/-- Something in place of what fills the hole. -/
def fillInstead (fill : Nat → Text) (i : Nat) (j : Nat) : Text := if j = i then ['-'] else fill j

theorem without_fill {fill : Nat → Text} {i : Nat} (nothing : fill i = []) (line : List Sym) :
    (without i line).flatMap (fillSym (fillInstead fill i)) = line.flatMap (fillSym fill) := by
  induction line with
  | nil => rfl
  | cons a rest ih =>
    rw [without] at ih
    by_cases here : a = .hole i
    · subst here
      rw [without,List.filter_cons_of_neg (by simp),ih,List.flatMap_cons,fillSym,nothing]
      rfl
    · have same : fillSym (fillInstead fill i) a = fillSym fill a := by
        cases a with
        | char c => rfl
        | hole j => exact if_neg fun equal => here (by rw [equal])
      rw [without,List.filter_cons_of_pos (by simpa using here),List.flatMap_cons,List.flatMap_cons,ih,same]

theorem tokens_without {line : List Sym} {fill : Nat → Text} {i : Nat} (nothing : fill i = [])
    (plain : ∀ j, j ≠ i → fill j ≠ [] ∧ ∀ c ∈ fill j, c ∉ specials) :
    ((Template.shell line).command fill).tokens =
      (lex symKind (without i line)).map (·.map (Token.fill (fillSym (fillInstead fill i)))) := by
  have instead : Plain (fillInstead fill i) := by
    intro j
    by_cases here : j = i
    · rw [fillInstead,if_pos here]
      exact ⟨List.cons_ne_nil '-' [],forall_of_all (by decide)⟩
    · rw [fillInstead,if_neg here]
      exact plain j here
  rw [← lex_fill instead.fills,without_fill nothing]
  rfl

theorem tokenWithout_fill {fill : Nat → Text} {i : Nat} (nothing : fill i = []) (token : Token Sym) :
    Token.fill (fillSym (fillInstead fill i)) (tokenWithout i token) = Token.fill (fillSym fill) token := by
  cases token with
  | word text => exact congrArg Token.word (without_fill nothing text)
  | operator text => exact congrArg Token.operator (without_fill nothing text)

theorem plain_rest : ['-'] ≠ [] ∧ ∀ c ∈ ['-'], c ∉ specials := ⟨List.cons_ne_nil '-' [],forall_of_all (by decide)⟩

/-! ### The lines -/

/-- The scan's line without its interface has the same words, but for it. -/
theorem arp_line : (lex symKind arpLine).isSome = true ∧
    lex symKind (without 1 arpLine) = (lex symKind arpLine).map (·.map (tokenWithout 1)) ∧
    (Template.shell arpLine).alone 1 ≠ true := by decide +kernel

/-- The sniffer's line without its interface has other words. -/
theorem sniff_line : (lex symKind sniffLine).isSome = true ∧
    (lex symKind (without 0 sniffLine)).map List.length ≠ (lex symKind sniffLine).map List.length ∧
    (Template.shell sniffLine).alone 0 = true := by decide +kernel

/-- The interface of the scan is part of an option, with any name and with none. -/
theorem arp_words {fill : Nat → Text} (cidr : fill 0 ≠ [] ∧ ∀ c ∈ fill 0, c ∉ specials) (iface : ∀ c ∈ fill 1, c ∉ specials)
    (rest : ∀ i, fill (i + 2) = ['-']) : ∃ shape, (Template.shell arpLine).shape = some shape ∧
      ((Template.shell arpLine).command fill).tokens = some (shape.map (Token.fill (fillSym fill))) := by
  have others : ∀ j, j ≠ 1 → fill j ≠ [] ∧ ∀ c ∈ fill j, c ∉ specials := by
    intro j other
    match j with
    | 0 => exact cidr
    | 1 => exact absurd rfl other
    | j + 2 => rw [rest]; exact plain_rest
  by_cases nothing : fill 1 = []
  · obtain ⟨shape,found⟩ := Option.isSome_iff_exists.mp arp_line.1
    refine ⟨shape,found,(tokens_without nothing others).trans ?_⟩
    rw [arp_line.2.1,found,Option.map_some,Option.map_some,List.map_map]
    exact congrArg some (List.map_congr_left fun token _ => tokenWithout_fill nothing token)
  · refine shell_words (fun j => ?_) arp_line.1
    by_cases here : j = 1
    · subst here
      exact ⟨nothing,iface⟩
    · exact others j here

/-- An interface with a name is a word of the sniffer's line; one without leaves it a word short. -/
theorem sniff_words_iff {fill : Nat → Text} (iface : ∀ c ∈ fill 0, c ∉ specials) (secs : fill 1 ≠ [] ∧ ∀ c ∈ fill 1, c ∉ specials)
    (rest : ∀ i, fill (i + 2) = ['-']) : (∃ shape, (Template.shell sniffLine).shape = some shape ∧
      ((Template.shell sniffLine).command fill).tokens = some (shape.map (Token.fill (fillSym fill)))) ↔ fill 0 ≠ [] := by
  have others : ∀ j, j ≠ 0 → fill j ≠ [] ∧ ∀ c ∈ fill j, c ∉ specials := by
    intro j other
    match j with
    | 0 => exact absurd rfl other
    | 1 => exact secs
    | j + 2 => rw [rest]; exact plain_rest
  constructor
  · rintro ⟨shape,found,words⟩ nothing
    have counts := congrArg (Option.map List.length) ((tokens_without nothing others).symm.trans words)
    rw [Option.map_map,Option.map_some,List.length_map] at counts
    refine sniff_line.2.1 ?_
    rw [show lex symKind sniffLine = some shape from found,Option.map_some,← counts]
    cases lex symKind (without 0 sniffLine) <;> simp
  · intro some_
    refine shell_words (fun j => ?_) sniff_line.1
    by_cases here : j = 0
    · subst here
      exact ⟨some_,iface⟩
    · exact others j here

/-- With its words and its characters as they should be, all that is left is the hyphen. -/
theorem carried_iff_argument {use : Use} {x : Text} {command : Command} (words : ∃ shape, use.template.shape = some shape ∧
    command.tokens = some (shape.map (Token.fill (fillSym (use.fill x))))) (plain : ∀ c ∈ use.fill x use.hole, c ∉ specials)
    (alone : use.template.alone use.hole = true) : Carried use x command ↔ (use.fill x use.hole).head? ≠ some '-' :=
  ⟨fun carried => carried.argument alone,fun safe => ⟨words,plain,fun _ => safe⟩⟩

/-- An address or a subnet is carried wherever its words are. -/
theorem carried_numeric {use : Use} {x : Text} {command : Command} (words : ∃ shape, use.template.shape = some shape ∧
    command.tokens = some (shape.map (Token.fill (fillSym (use.fill x))))) (numeric : Numeric (use.fill x use.hole)) :
    Carried use x command := ⟨words,numeric.plain,fun _ => numeric.head⟩

/-- A parameter that the code accepts is carried into its command exactly when it is safe. -/
theorem carried_iff (alphanumeric : Alphanumeric) (use : Use) (x : Text) (command : Command)
    (built : use.build alphanumeric x = some command) : Carried use x command ↔ use.Safe x := by
  obtain ⟨accepted,rfl⟩ := build_spec built
  cases use with
  | pingHost timeoutMs =>
    exact carried_iff_argument (argv_words _ _) (host_plain accepted) (show (Use.pingHost none).template.alone 0 = true by decide)
  | tcpHost port timeoutMs =>
    exact carried_iff_argument (argv_words _ _) (host_plain accepted) (show (Use.tcpHost 0 none).template.alone 0 = true by decide)
  | snmpHost community timeoutMs =>
    exact carried_iff_argument (argv_words _ _) (host_plain accepted) (show snmpTemplate.alone 0 = true by decide)
  | snmpCommunity host timeoutMs =>
    constructor
    · intro carried
      have bang : '!' ∉ x := fun member => carried.plain '!' member (by decide)
      have hash : '#' ∉ x := fun member => carried.plain '#' member (by decide)
      exact ⟨carried.argument (show snmpTemplate.alone 1 = true by decide),bang,hash⟩
    · rintro ⟨safe,bang,hash⟩
      refine ⟨argv_words _ _,fun c member => ?_,fun _ => safe⟩
      exact community_plain accepted member (fun same => bang (same ▸ member)) fun same => hash (same ▸ member)
  | nslookupIp => exact iff_of_true (carried_numeric (argv_words _ _) (ipv4_numeric accepted).2) trivial
  | nmapSubnet =>
    have subnet := cidr_numeric accepted
    refine iff_of_true (carried_numeric (shell_words (fun i => ?_) (by decide +kernel)) subnet.2) trivial
    match i with
    | 0 => exact ⟨subnet.1,subnet.2.plain⟩
    | i + 1 => exact plain_rest
  | sweepSubnet i =>
    have ip := sweepIp_numeric accepted i
    refine iff_of_true (carried_numeric (shell_words (fun j => ?_) (by decide +kernel)) ip.2) trivial
    match j with
    | 0 => exact ⟨ip.1,ip.2.plain⟩
    | j + 1 => exact plain_rest
  | arpCidr iface =>
    have subnet := cidr_numeric accepted.1
    exact iff_of_true (carried_numeric (arp_words ⟨subnet.1,subnet.2.plain⟩ (iface_plain accepted.2) fun _ => rfl) subnet.2) trivial
  | arpIface cidr =>
    have subnet := cidr_numeric accepted.1
    have words := @arp_words (Use.fill (.arpIface cidr) x) ⟨subnet.1,subnet.2.plain⟩ (iface_plain accepted.2) fun _ => rfl
    refine iff_of_true ⟨words,iface_plain accepted.2,fun alone => ?_⟩ trivial
    -- the name is a part of an option
    exact absurd alone arp_line.2.2
  | sniffIface secs =>
    have words := @sniff_words_iff (Use.fill (.sniffIface secs) x) (iface_plain accepted)
      ⟨(decimal_plain secs).1,(decimal_plain secs).2.plain⟩ fun _ => rfl
    constructor
    · intro carried
      exact ⟨words.mp carried.words,carried.argument sniff_line.2.2⟩
    · rintro ⟨some_,safe⟩
      exact ⟨words.mpr some_,iface_plain accepted,fun _ => safe⟩

/-- Letters and digits of ASCII only. -/
def asciiOnly : Alphanumeric := ⟨Char.isAlphanum,fun _ _ => rfl⟩

theorem carried_iff_host : Carried (.pingHost none) "my-router.local".toList
    (.argv ["ping".toList,"-c".toList,"1".toList,"-W".toList,"2".toList,"my-router.local".toList]) :=
  (carried_iff asciiOnly (.pingHost none) "my-router.local".toList _ rfl).mpr (by unfold Use.Safe; decide)

/-- A host that `ping` takes for an option. -/
theorem host_is_option : ¬ ∀ (alphanumeric : Alphanumeric) (use : Use) (x : Text) (command : Command),
    use.build alphanumeric x = some command → Carried use x command := by
  intro claim
  have carried := claim asciiOnly (.pingHost none) "-f".toList
    (.argv ["ping".toList,"-c".toList,"1".toList,"-W".toList,"2".toList,"-f".toList]) rfl
  exact carried.argument (by decide) rfl

end Sctl.InfraParameters
