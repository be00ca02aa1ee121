import QueryDesk.Text.Canonical

/-!
# Joiners

Two characters without a shape say whether the letters around them are joined.  They may stand only
where that changes the shape of the letters.

* `Joiner.side`   to which sides a letter can be joined;
* `Joiner.fit`    all joiners of a word stand where they may.
-/

namespace QueryDesk.Text.Joiner

/-- to which sides a letter can be joined -/
inductive Side where
  | left
  | both
  | right
  /-- a mark, which does not count -/
  | transparent
  | none
deriving DecidableEq

/-- letters that are joined: to the left 1, to both sides 2, to the right 3; marks 4 -/
def table : CharTable := CharTable.ofLines [
  "300=70:4 483=7:4 591=2d:4 5bf:4 5c1=2:4 5c4=2:4 5c7:4 610=b:4 620:2 622=4:3 626+2:2 628+2:2",
  "62a=5:2 62f=4:3 633=d:2 641=7:2 648:3 649=2:2 64b=15:4 66e=2:2 670:4 671=3:3 679=f:2",
  "688=12:3 69a=26:2 6c0:3 6c1=2:2 6c3=9:3 6cc+2:2 6ce+2:2 6d0=2:2 6d2=2:3 6d5+2:3 6d7=6:4",
  "6df=6:4 6e7=2:4 6ea=4:4 6ee=2:3 6fa=3:2 6ff:2 710+2:3 712=3:2 715=5:3 71a=4:2 71e:3 71f=9:2",
  "728:3 729+2:2 72b+2:2 72d=2:2 72f+2:3 731=1a:4 74d:3 74e=b:2 759=3:3 75c=f:2 76b=2:3 76d=4:2",
  "771:3 772+2:2 774:3 775=3:2 778=2:3 77a=6:2 7a6=b:4 7ca=21:2 7eb=9:4 7fd:4 816=4:4 81b=9:4",
  "825=3:4 829=5:4 840:3 841=5:2 846=2:3 848+2:2 84a=a:2 854:3 855+2:2 857=2:3 859=3:4 860:2",
  "862=4:2 867:3 868+2:2 86a=19:3 886:2 889=5:2 88e:3 898=8:4 8a0=a:2 8aa=3:3 8ae:3 8af=2:2",
  "8b1=2:3 8b3=6:2 8b9:3 8ba=f:2 8ca=39:4 93a:4 93c:4 941=8:4 94d:4 951=7:4 962=2:4 981:4 9bc:4",
  "9c1=4:4 9cd:4 9e2=2:4 9fe=5:4 a3c:4 a41=11:4 a70=2:4 a75:4 a81=2:4 abc:4 ac1=8:4 acd:4",
  "ae2=2:4 afa=8:4 b3c:4 b3f:4 b41=4:4 b4d=a:4 b62=2:4 b82:4 bc0:4 bcd:4 c00:4 c04:4 c3c:4",
  "c3e=3:4 c46=11:4 c62=2:4 c81:4 cbc:4 cbf:4 cc6:4 ccc=2:4 ce2=2:4 d00=2:4 d3b=2:4 d41=4:4",
  "d4d:4 d62=2:4 d81:4 dca:4 dd2=5:4 e31:4 e34=7:4 e47=8:4 eb1:4 eb4=9:4 ec8=7:4 f18=2:4 f35:4",
  "f37:4 f39:4 f71=e:4 f80=5:4 f86=2:4 f8d=30:4 fc6:4 102d=4:4 1032=6:4 1039=2:4 103d=2:4",
  "1058=2:4 105e=3:4 1071=4:4 1082:4 1085=2:4 108d:4 109d:4 135d=3:4 1712=3:4 1732=2:4 1752=2:4",
  "1772=2:4 17b7=7:4 17c6:4 17c9=b:4 17dd:4 1807:2 1820=59:2 1885=2:4 1887=22:2 18a9:4 18aa:2",
  "1920=3:4 1927=2:4 1932:4 1939=3:4 1a17=2:4 1a1b:4 1a56:4 1a58=9:4 1a62:4 1a65=8:4 1a73=d:4",
  "1ab0=1f:4 1b00=4:4 1b34:4 1b36=5:4 1b3c:4 1b42:4 1b6b=9:4 1b80=2:4 1ba2=4:4 1ba8=2:4",
  "1bab=3:4 1be6:4 1be8=2:4 1bed:4 1bef=3:4 1c2c=8:4 1c36=2:4 1cd0=3:4 1cd4=d:4 1ce2=7:4 1ced:4",
  "1cf4:4 1cf8=2:4 1dc0=40:4 20d0=21:4 2cef=3:4 2d7f:4 2de0=20:4 302a=4:4 3099=2:4 a66f=4:4",
  "a674=a:4 a69e=2:4 a6f0=2:4 a802:4 a806:4 a80b:4 a825=2:4 a82c:4 a840=32:2 a872:1 a8c4=2:4",
  "a8e0=12:4 a8ff:4 a926=8:4 a947=b:4 a980=3:4 a9b3:4 a9b6=4:4 a9bc=2:4 a9e5:4 aa29=6:4",
  "aa31=2:4 aa35=2:4 aa43:4 aa4c:4 aa7c:4 aab0:4 aab2=3:4 aab7=2:4 aabe=2:4 aac1:4 aaec=2:4",
  "aaf6:4 abe5:4 abe8:4 abed:4 fb1e:4 fe20=10:4 101fd:4 102e0:4 10376=5:4 10a01=f:4 10a38=8:4",
  "10ac0=5:2 10ac5:3 10ac7:3 10ac9=2:3 10acd*2:1 10ace:3 10ad0=3:3 10ad3=4:2 10ad7+2:1",
  "10ad9=4:2 10add:3 10ade=3:2 10ae1:3 10ae4+2:3 10ae6:4 10aeb=4:2 10aef:3 10b80+2:2 10b82+2:2",
  "10b84=2:3 10b86=3:2 10b89:3 10b8a=2:2 10b8c:3 10b8d+2:2 10b8f:3 10b90+2:2 10ba9=4:3",
  "10bad=2:2 10d00+2:1 10d02=20:2 10d22:3 10d23*2:2 10d24:4 10d26=2:4 10eab=2:4 10efd=3:4",
  "10f30=3:2 10f33:3 10f34=11:2 10f46=b:4 10f51=3:2 10f54:3 10f70=4:2 10f74=2:3 10f76=c:2",
  "10f82=4:4 10fb0:2 10fb2=2:2 10fb4=3:3 10fb8+2:2 10fba:3 10fbb=2:2 10fbd:3 10fbe=2:2",
  "10fc1+2:2 10fc3:3 10fc4:2 10fc9:3 10fca:2 10fcb:1 11001:4 11038=f:4 11070:4 11073=2:4",
  "1107f=3:4 110b3=4:4 110b9=2:4 110c2:4 11100=3:4 11127=5:4 1112d=8:4 11173:4 11180=2:4",
  "111b6=9:4 111c9=4:4 111cf:4 1122f=3:4 11234:4 11236=2:4 1123e:4 11241:4 112df:4 112e3=8:4",
  "11300=2:4 1133b=2:4 11340:4 11366=f:4 11438=8:4 11442=3:4 11446:4 1145e:4 114b3=6:4 114ba:4",
  "114bf=2:4 114c2=2:4 115b2=4:4 115bc=2:4 115bf=2:4 115dc=2:4 11633=8:4 1163d:4 1163f=2:4",
  "116ab:4 116ad:4 116b0=6:4 116b7:4 1171d=3:4 11722=4:4 11727=5:4 1182f=9:4 11839=2:4",
  "1193b=2:4 1193e:4 11943:4 119d4=8:4 119e0:4 11a01=a:4 11a33=6:4 11a3b=4:4 11a47:4 11a51=6:4",
  "11a59=3:4 11a8a=d:4 11a98=2:4 11c30=e:4 11c3f:4 11c92=16:4 11caa=7:4 11cb2=2:4 11cb5=2:4",
  "11d31=15:4 11d47:4 11d90=2:4 11d95:4 11d97:4 11ef3=2:4 11f00=2:4 11f36=5:4 11f40:4 11f42:4",
  "13440:4 13447=f:4 16af0=5:4 16b30=7:4 16f4f:4 16f8f=4:4 16fe4:4 1bc9d=2:4 1cf00=47:4",
  "1d167=3:4 1d17b=8:4 1d185=7:4 1d1aa=4:4 1d242=3:4 1da00=37:4 1da3b=32:4 1da75:4 1da84:4",
  "1da9b=15:4 1e000=90:4 1e130=7:4 1e2ae:4 1e2ec=4:4 1e4ec=4:4 1e8d0=7:4 1e922=22:2 1e944=8:4"]

def side (c : Char) : Side :=
  match table.number c with
  | 1 => .left
  | 2 => .both
  | 3 => .right
  | 4 => .transparent
  | _ => .none

def nonJoiner : Char := '\u200c'
def joiner : Char := '\u200d'

/-- the next letter, marks apart, can be joined to this side -/
def meets (s : Side) (cs : List Char) : Bool :=
  ((cs.map side).dropWhile (· = .transparent)).head?.any fun t => t = s ∨ t = .both

/-- behind a mark that takes the vowel from a consonant -/
def behindVirama (before : List Char) : Bool := before.head?.any fun c => Canonical.rank c = 9

/-- a character between what stands before it, the nearest first, and behind it -/
def fits (before : List Char) (c : Char) (behind : List Char) : Bool :=
  if c = joiner then behindVirama before
  else if c = nonJoiner then behindVirama before || (meets .left before && meets .right behind)
  else true

/-- all joiners of a word behind `before` -/
def fitBehind (before : List Char) : List Char → Bool
  | [] => true
  | c :: rest => fits before c rest && fitBehind (c :: before) rest

def fit (word : List Char) : Bool := fitBehind [] word

end QueryDesk.Text.Joiner
