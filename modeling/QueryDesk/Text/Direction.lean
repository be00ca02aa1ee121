import QueryDesk.Text.CharTable

/-!
# Directions of writing

A text with characters that are written from right to left is shown in another order than it is
stored.

* `Direction.of`       how a character is written;
* `Direction.keeps`    a word keeps its order and its place wherever it stands: it is written in one
  direction, begins with a letter, and ends with a letter or a number;
* `Direction.turns`    a word has characters that are written from right to left.
-/

namespace QueryDesk.Text

inductive Direction where
  | leftToRight
  | rightToLeft
  /-- the digits that are used with Arabic letters -/
  | arabicNumber
  | number
  /-- written like what stands before it -/
  | mark
  /-- punctuation and symbols -/
  | neutral
  /-- blanks, and characters that change the direction -/
  | separator
deriving DecidableEq

namespace Direction

/-- from right to left 1, Arabic numbers 2, numbers 3, marks 4, neutral 5, separators 6; all
others go from left to right -/
def table : CharTable := CharTable.ofLines [
  "0=9:5 9=5:6 e=e:5 1c=5:6 21=f:5 30=a:3 3a=7:5 5b=6:5 7b=5d:5 f7:5 2b9=2:5 2c2=e:5 2d2=1c:5",
  "2ef=11:5 300=70:4 375:5 3f6:5 483=7:4 58a=6:5 591=2d:4 5be:1 5bf:4 5c0:1 5c1=2:4 5c3:1",
  "5c4=2:4 5c6:1 5c7:4 5d0=25:1 606=2:5 608:1 609=2:5 60b:1 60c:5 60d:1 60e=2:5 610=b:4",
  "61b=30:1 64b=15:4 660=a:2 66a:5 66b=2:2 66d=3:1 670:4 671=65:1 6d6=7:4 6de:5 6df=6:4 6e5=2:1",
  "6e7=2:4 6e9:5 6ea=4:4 6ee=2:1 6f0=a:3 6fa=17:1 711:4 712=1e:1 730=1b:4 74d=59:1 7a6=b:4",
  "7b1=3a:1 7eb=9:4 7f4=2:1 7f6=4:5 7fa:1 7fd:4 7fe=18:1 816=4:4 81a:1 81b=9:4 824:1 825=3:4",
  "828:1 829=5:4 830=29:1 859=3:4 85e=3a:1 898=8:4 8a0=2a:1 8ca=39:4 93a:4 93c:4 941=8:4 94d:4",
  "951=7:4 962=2:4 981:4 9bc:4 9c1=4:4 9cd:4 9e2=2:4 9f2=2:5 9fb:5 9fe=5:4 a3c:4 a41=11:4",
  "a70=2:4 a75:4 a81=2:4 abc:4 ac1=8:4 acd:4 ae2=2:4 af1:5 afa=8:4 b3c:4 b3f:4 b41=4:4 b4d=a:4",
  "b62=2:4 b82:4 bc0:4 bcd:4 bf3=8:5 c00:4 c04:4 c3c:4 c3e=3:4 c46=11:4 c62=2:4 c78=7:5 c81:4",
  "cbc:4 ccc=2:4 ce2=2:4 d00=2:4 d3b=2:4 d41=4:4 d4d:4 d62=2:4 d81:4 dca:4 dd2=5:4 e31:4",
  "e34=7:4 e3f:5 e47=8:4 eb1:4 eb4=9:4 ec8=7:4 f18=2:4 f35:4 f37:4 f39+2:4 f3b=3:5 f71=e:4",
  "f80=5:4 f86=2:4 f8d=30:4 fc6:4 102d=4:4 1032=6:4 1039=2:4 103d=2:4 1058=2:4 105e=3:4",
  "1071=4:4 1082:4 1085=2:4 108d:4 109d:4 135d=3:4 1390=a:5 1400:5 169b=2:5 1712=3:4 1732=2:4",
  "1752=2:4 1772=2:4 17b7=7:4 17c6:4 17c9=b:4 17db:5 17dd:4 17f0=1b:5 1885=2:4 18a9:4 1920=3:4",
  "1927=2:4 1932:4 1939=3:4 1940=6:5 19de=22:5 1a17=2:4 1a1b:4 1a56:4 1a58=9:4 1a62:4 1a65=8:4",
  "1a73=d:4 1ab0=1f:4 1b00=4:4 1b34:4 1b36=5:4 1b3c:4 1b42:4 1b6b=9:4 1b80=2:4 1ba2=4:4",
  "1ba8=2:4 1bab=3:4 1be6:4 1be8=2:4 1bed:4 1bef=3:4 1c2c=8:4 1c36=2:4 1cd0=3:4 1cd4=d:4",
  "1ce2=7:4 1ced:4 1cf4:4 1cf8=2:4 1dc0=40:4 200c=b6:5 20d0=21:4 2104=4a:5 218a=1ac:5 237b=1a:5",
  "2396=91:5 2440=26c:5 26ad=153:5 2900=296:5 2b97=69:5 2ce5=6:5 2cef=3:4 2cf9=7:5 2d7f:4",
  "2de0=20:4 2e00=205:5 3008=19:5 302a=4:4 3030:5 3037:5 303d=3:5 3099=2:4 30a0:5 30fb:5",
  "31c0=24:5 4dc0=40:5 a490=37:5 a60d=3:5 a66f=4:4 a673:5 a674=a:4 a67e=2:5 a69e=2:4 a6f0=2:4",
  "a700=22:5 a788:5 a802:4 a806:4 a80b:4 a825=2:4 a828=4:5 a82c:4 a838=2:5 a874=4:5 a8c4=2:4",
  "a8e0=12:4 a8ff:4 a926=8:4 a947=b:4 a980=3:4 a9b3:4 a9b6=4:4 a9bc=2:4 a9e5:4 aa29=6:4",
  "aa31=2:4 aa35=2:4 aa43:4 aa4c:4 aa7c:4 aab0:4 aab2=3:4 aab7=2:4 aabe=2:4 aac1:4 aaec=2:4",
  "aaf6:4 ab6a=2:5 abe5:4 abe8:4 abed:4 fb1e:4 fbb2=21:1 fd3e=12:5 fd90=3f:1 fdcf=31:5",
  "fe20=10:4 fe45=2:5 fe73:1 10101:5 10140=4d:5 10190=11:5 101fd:4 102e0:4 102e1=1b:3 10376=5:4",
  "10800=11c:1 1091f:5 10920=e1:1 10a01=f:4 10a10=26:1 10a38=8:4 10a40=a5:1 10ae5=2:4",
  "10aeb=4b:1 10b39=7:5 10b40=1e4:1 10d24=4:4 10d30=a:2 10d40=50:1 10e60=1f:2 10e80=2a:1",
  "10eab=2:4 10ead=50:1 10efd=3:4 10f00=46:1 10f46=b:4 10f51=31:1 10f82=4:4 10f86=71:1 11001:4",
  "11038=f:4 11052=14:5 11070:4 11073=2:4 1107f=3:4 110b3=4:4 110b9=2:4 110c2:4 11100=3:4",
  "11127=5:4 1112d=8:4 11173:4 11180=2:4 111b6=9:4 111c9=4:4 111cf:4 1122f=3:4 11234:4",
  "11236=2:4 1123e:4 11241:4 112df:4 112e3=8:4 11300=2:4 1133b=2:4 11340:4 11366=f:4 11438=8:4",
  "11442=3:4 11446:4 1145e:4 114b3=6:4 114ba:4 114bf=2:4 114c2=2:4 115b2=4:4 115bc=2:4",
  "115bf=2:4 115dc=2:4 11633=8:4 1163d:4 1163f=2:4 11660=d:5 116ab:4 116ad:4 116b0=6:4 116b7:4",
  "1171d=3:4 11722=4:4 11727=5:4 1182f=9:4 11839=2:4 1193b=2:4 1193e:4 11943:4 119d4=8:4",
  "119e0:4 11a01=6:4 11a09=2:4 11a33=6:4 11a3b=4:4 11a47:4 11a51=6:4 11a59=3:4 11a8a=d:4",
  "11a98=2:4 11c30=e:4 11c92=16:4 11caa=7:4 11cb2=2:4 11cb5=2:4 11d31=15:4 11d47:4 11d90=2:4",
  "11d95:4 11d97:4 11ef3=2:4 11f00=2:4 11f36=5:4 11f40:4 11f42:4 11fd5=1d:5 13440:4 13447=f:4",
  "16af0=5:4 16b30=7:4 16f4f:4 16f8f=4:4 16fe2:5 16fe4:4 1bc9d=2:4 1cf00=47:4 1d167=3:4",
  "1d17b=8:4 1d185=7:4 1d1aa=4:4 1d1e9=59:5 1d242=3:4 1d245:5 1d300=57:5 1da00=37:4 1da3b=32:4",
  "1da75:4 1da84:4 1da9b=15:4 1e000=90:4 1e130=7:4 1e2ae:4 1e2ec=4:4 1e2ff:5 1e4ec=4:4",
  "1e800=d0:1 1e8d0=7:4 1e922=22:1 1e944=7:4 1e94b=3f3:1 1eef0=240:5 1f16d=3:5 1f1ad:5",
  "1f260=478:5 1f6dc=9b:5 1f77b=137:5 1f900=154:5 1fa60=29:5 1fa90=2e:5 1fabf=7:5 1face=e:5",
  "1fae0=9:5 1faf0=db:5"]

def of (c : Char) : Direction :=
  match table.number c with
  | 1 => rightToLeft
  | 2 => arabicNumber
  | 3 => number
  | 4 => mark
  | 5 => neutral
  | 6 => separator
  | _ => leftToRight

/-- only these directions occur -/
def within (allowed ds : List Direction) : Bool := ds.all (· ∈ allowed)

/-- the last direction, but for marks, is one of these -/
def endsIn (last ds : List Direction) : Bool :=
  ((ds.reverse.dropWhile (· = mark)).head?).any (· ∈ last)

def keeps (word : List Char) : Bool :=
  match word.map of with
  | [] => true
  | rightToLeft :: rest =>
    let ds := rightToLeft :: rest
    within [rightToLeft, arabicNumber, number, mark, neutral] ds
      && endsIn [rightToLeft, arabicNumber, number] ds && !(number ∈ ds && arabicNumber ∈ ds)
  | leftToRight :: rest =>
    let ds := leftToRight :: rest
    within [leftToRight, number, mark, neutral] ds && endsIn [leftToRight, number] ds
  | _ => false

def turns (word : List Char) : Bool := word.any fun c => of c = rightToLeft ∨ of c = arabicNumber

end Direction

end QueryDesk.Text
