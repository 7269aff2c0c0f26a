import TokenClient.Idna.Property

/-! The composed normal form: marks in the order of their classes, and every letter written with
as few characters as possible. Characters are given by their code points. -/
namespace TokenClient.Idna

/-- Letters composed of a first and a second character. After the first one stand the seconds, each
with the letter they make. -/
def pairTable : String := "
  3c: 338.226e 3d: 338.2260 3e: 338.226f 61: 300.e0 301.e1 302.e2 303.e3 304.101 306.103 307.227
  308.e4 309.1ea3 30a.e5 30c.1ce 30f.201 311.203 323.1ea1 325.1e01 328.105 62: 307.1e03 323.1e05
  331.1e07 63: 301.107 302.109 307.10b 30c.10d 327.e7 64: 307.1e0b 30c.10f 323.1e0d 327.1e11
  32d.1e13 331.1e0f 65: 300.e8 301.e9 302.ea 303.1ebd 304.113 306.115 307.117 308.eb 309.1ebb
  30c.11b 30f.205 311.207 323.1eb9 327.229 328.119 32d.1e19 330.1e1b 66: 307.1e1f 67: 301.1f5
  302.11d 304.1e21 306.11f 307.121 30c.1e7 327.123 68: 302.125 307.1e23 308.1e27 30c.21f 323.1e25
  327.1e29 32e.1e2b 331.1e96 69: 300.ec 301.ed 302.ee 303.129 304.12b 306.12d 308.ef 309.1ec9
  30c.1d0 30f.209 311.20b 323.1ecb 328.12f 330.1e2d 6a: 302.135 30c.1f0 6b: 301.1e31 30c.1e9
  323.1e33 327.137 331.1e35 6c: 301.13a 30c.13e 323.1e37 327.13c 32d.1e3d 331.1e3b 6d: 301.1e3f
  307.1e41 323.1e43 6e: 300.1f9 301.144 303.f1 307.1e45 30c.148 323.1e47 327.146 32d.1e4b 331.1e49
  6f: 300.f2 301.f3 302.f4 303.f5 304.14d 306.14f 307.22f 308.f6 309.1ecf 30b.151 30c.1d2 30f.20d
  311.20f 31b.1a1 323.1ecd 328.1eb 70: 301.1e55 307.1e57 72: 301.155 307.1e59 30c.159 30f.211
  311.213 323.1e5b 327.157 331.1e5f 73: 301.15b 302.15d 307.1e61 30c.161 323.1e63 326.219 327.15f
  74: 307.1e6b 308.1e97 30c.165 323.1e6d 326.21b 327.163 32d.1e71 331.1e6f 75: 300.f9 301.fa 302.fb
  303.169 304.16b 306.16d 308.fc 309.1ee7 30a.16f 30b.171 30c.1d4 30f.215 311.217 31b.1b0 323.1ee5
  324.1e73 328.173 32d.1e77 330.1e75 76: 303.1e7d 323.1e7f 77: 300.1e81 301.1e83 302.175 307.1e87
  308.1e85 30a.1e98 323.1e89 78: 307.1e8b 308.1e8d 79: 300.1ef3 301.fd 302.177 303.1ef9 304.233
  307.1e8f 308.ff 309.1ef7 30a.1e99 323.1ef5 7a: 301.17a 302.1e91 307.17c 30c.17e 323.1e93 331.1e95
  e2: 300.1ea7 301.1ea5 303.1eab 309.1ea9 e4: 304.1df e5: 301.1fb e6: 301.1fd 304.1e3 e7: 301.1e09
  ea: 300.1ec1 301.1ebf 303.1ec5 309.1ec3 ef: 301.1e2f f4: 300.1ed3 301.1ed1 303.1ed7 309.1ed5 f5:
  301.1e4d 304.22d 308.1e4f f6: 304.22b f8: 301.1ff fc: 300.1dc 301.1d8 304.1d6 30c.1da 103:
  300.1eb1 301.1eaf 303.1eb5 309.1eb3 113: 300.1e15 301.1e17 14d: 300.1e51 301.1e53 15b: 307.1e65
  161: 307.1e67 169: 301.1e79 16b: 308.1e7b 1a1: 300.1edd 301.1edb 303.1ee1 309.1edf 323.1ee3 1b0:
  300.1eeb 301.1ee9 303.1eef 309.1eed 323.1ef1 1eb: 304.1ed 227: 304.1e1 229: 306.1e1d 22f: 304.231
  292: 30c.1ef 3b1: 300.1f70 301.3ac 304.1fb1 306.1fb0 313.1f00 314.1f01 342.1fb6 3b5: 300.1f72
  301.3ad 313.1f10 314.1f11 3b7: 300.1f74 301.3ae 313.1f20 314.1f21 342.1fc6 3b9: 300.1f76 301.3af
  304.1fd1 306.1fd0 308.3ca 313.1f30 314.1f31 342.1fd6 3bf: 300.1f78 301.3cc 313.1f40 314.1f41 3c1:
  313.1fe4 314.1fe5 3c5: 300.1f7a 301.3cd 304.1fe1 306.1fe0 308.3cb 313.1f50 314.1f51 342.1fe6 3c9:
  300.1f7c 301.3ce 313.1f60 314.1f61 342.1ff6 3ca: 300.1fd2 301.390 342.1fd7 3cb: 300.1fe2 301.3b0
  342.1fe7 430: 306.4d1 308.4d3 433: 301.453 435: 300.450 306.4d7 308.451 436: 306.4c2 308.4dd 437:
  308.4df 438: 300.45d 304.4e3 306.439 308.4e5 43a: 301.45c 43e: 308.4e7 443: 304.4ef 306.45e
  308.4f1 30b.4f3 447: 308.4f5 44b: 308.4f9 44d: 308.4ed 456: 308.457 475: 30f.477 4d9: 308.4db
  4e9: 308.4eb 627: 653.622 654.623 655.625 648: 654.624 64a: 654.626 6c1: 654.6c2 6d2: 654.6d3
  6d5: 654.6c0 928: 93c.929 930: 93c.931 933: 93c.934 9c7: 9be.9cb 9d7.9cc b47: b3e.b4b b56.b48
  b57.b4c b92: bd7.b94 bc6: bbe.bca bd7.bcc bc7: bbe.bcb c46: c56.c48 cbf: cd5.cc0 cc6: cc2.cca
  cd5.cc7 cd6.cc8 cca: cd5.ccb d46: d3e.d4a d57.d4c d47: d3e.d4b dd9: dca.dda dcf.ddc ddf.dde ddc:
  dca.ddd 1025: 102e.1026 1b05: 1b35.1b06 1b07: 1b35.1b08 1b09: 1b35.1b0a 1b0b: 1b35.1b0c 1b0d:
  1b35.1b0e 1b11: 1b35.1b12 1b3a: 1b35.1b3b 1b3c: 1b35.1b3d 1b3e: 1b35.1b40 1b3f: 1b35.1b41 1b42:
  1b35.1b43 1e37: 304.1e39 1e5b: 304.1e5d 1e63: 307.1e69 1ea1: 302.1ead 306.1eb7 1eb9: 302.1ec7
  1ecd: 302.1ed9 1f00: 300.1f02 301.1f04 342.1f06 1f01: 300.1f03 301.1f05 342.1f07 1f10: 300.1f12
  301.1f14 1f11: 300.1f13 301.1f15 1f20: 300.1f22 301.1f24 342.1f26 1f21: 300.1f23 301.1f25
  342.1f27 1f30: 300.1f32 301.1f34 342.1f36 1f31: 300.1f33 301.1f35 342.1f37 1f40: 300.1f42
  301.1f44 1f41: 300.1f43 301.1f45 1f50: 300.1f52 301.1f54 342.1f56 1f51: 300.1f53 301.1f55
  342.1f57 1f60: 300.1f62 301.1f64 342.1f66 1f61: 300.1f63 301.1f65 342.1f67 2190: 338.219a 2192:
  338.219b 2194: 338.21ae 21d0: 338.21cd 21d2: 338.21cf 21d4: 338.21ce 2203: 338.2204 2208:
  338.2209 220b: 338.220c 2223: 338.2224 2225: 338.2226 223c: 338.2241 2243: 338.2244 2245:
  338.2247 2248: 338.2249 224d: 338.226d 2261: 338.2262 2264: 338.2270 2265: 338.2271 2272:
  338.2274 2273: 338.2275 2276: 338.2278 2277: 338.2279 227a: 338.2280 227b: 338.2281 227c:
  338.22e0 227d: 338.22e1 2282: 338.2284 2283: 338.2285 2286: 338.2288 2287: 338.2289 2291:
  338.22e2 2292: 338.22e3 22a2: 338.22ac 22a8: 338.22ad 22a9: 338.22ae 22ab: 338.22af 22b2:
  338.22ea 22b3: 338.22eb 22b4: 338.22ec 22b5: 338.22ed 3046: 3099.3094 304b: 3099.304c 304d:
  3099.304e 304f: 3099.3050 3051: 3099.3052 3053: 3099.3054 3055: 3099.3056 3057: 3099.3058 3059:
  3099.305a 305b: 3099.305c 305d: 3099.305e 305f: 3099.3060 3061: 3099.3062 3064: 3099.3065 3066:
  3099.3067 3068: 3099.3069 306f: 3099.3070 309a.3071 3072: 3099.3073 309a.3074 3075: 3099.3076
  309a.3077 3078: 3099.3079 309a.307a 307b: 3099.307c 309a.307d 309d: 3099.309e 30a6: 3099.30f4
  30ab: 3099.30ac 30ad: 3099.30ae 30af: 3099.30b0 30b1: 3099.30b2 30b3: 3099.30b4 30b5: 3099.30b6
  30b7: 3099.30b8 30b9: 3099.30ba 30bb: 3099.30bc 30bd: 3099.30be 30bf: 3099.30c0 30c1: 3099.30c2
  30c4: 3099.30c5 30c6: 3099.30c7 30c8: 3099.30c9 30cf: 3099.30d0 309a.30d1 30d2: 3099.30d3
  309a.30d4 30d5: 3099.30d6 309a.30d7 30d8: 3099.30d9 309a.30da 30db: 3099.30dc 309a.30dd 30ef:
  3099.30f7 30f0: 3099.30f8 30f1: 3099.30f9 30f2: 3099.30fa 30fd: 3099.30fe 11099: 110ba.1109a
  1109b: 110ba.1109c 110a5: 110ba.110ab 11131: 11127.1112e 11132: 11127.1112f 11347: 1133e.1134b
  11357.1134c 114b9: 114b0.114bc 114ba.114bb 114bd.114be 115b8: 115af.115ba 115b9: 115af.115bb
  11935: 11930.11938"

/-- Marks by class: after each class stand the marks of that class. -/
def classTable : String := "
  1: 334-338 1cd4 1ce2-1ce8 20d2-20d3 20d8-20da 20e5-20e6 20ea-20eb 10a39 16af0-16af4 1bc9e
  1d167-1d169 6: 16ff0-16ff1 7: 93c 9bc a3c abc b3c c3c cbc 1037 1b34 1be6 1c37 a9b3 110ba 11173
  111ca 11236 112e9 1133b-1133c 11446 114c3 115c0 116b7 1183a 11943 11d42 1e94a 8: 3099-309a 9: 94d
  9cd a4d acd b4d bcd c4d ccd d3b-d3c d4d dca e3a eba f84 1039-103a 1714-1715 1734 17d2 1a60 1b44
  1baa-1bab 1bf2-1bf3 2d7f a806 a82c a8c4 a953 a9c0 aaf6 abed 10a3f 11046 11070 1107f 110b9
  11133-11134 111c0 11235 112ea 1134d 11442 114c2 115bf 1163f 116b6 1172b 11839 1193d-1193e 119e0
  11a34 11a47 11a99 11c3f 11d44-11d45 11d97 a: 5b0 b: 5b1 c: 5b2 d: 5b3 e: 5b4 f: 5b5 10: 5b6 11:
  5b7 12: 5b8 5c7 13: 5b9-5ba 14: 5bb 15: 5bc 16: 5bd 17: 5bf 18: 5c1 19: 5c2 1a: fb1e 1b: 64b 8f0
  1c: 64c 8f1 1d: 64d 8f2 1e: 618 64e 1f: 619 64f 20: 61a 650 21: 651 22: 652 23: 670 24: 711 54:
  c55 5b: c56 67: e38-e39 6b: e48-e4b 76: eb8-eb9 7a: ec8-ecb 81: f71 82: f72 f7a-f7d f80 84: f74
  ca: 321-322 327-328 1dd0 d6: 1dce d8: 31b f39 1d165-1d166 1d16e-1d172 da: 1dfa 302a dc: 316-319
  31c-320 323-326 329-333 339-33c 347-349 34d-34e 353-356 359-35a 591 596 59b 5a2-5a7 5aa 5c5
  655-656 65c 65f 6e3 6ea 6ed 731 734 737-739 73b-73c 73e 742 744 746 748 7f2 7fd 859-85b 899-89b
  8cf-8d3 8e3 8e6 8e9 8ed-8ef 8f6 8f9-8fa 952 f18-f19 f35 f37 fc6 108d 193b 1a18 1a7f 1ab5-1aba
  1abd 1abf-1ac0 1ac3-1ac4 1aca 1b6c 1cd5-1cd9 1cdc-1cdf 1ced 1dc2 1dca 1dcf 1df9 1dfd 1dff 20e8
  20ec-20ef a92b-a92d aab4 fe27-fe2d 101fd 102e0 10a0d 10a3a 10ae6 10f46-10f47 10f4b 10f4d-10f50
  10f83 10f85 1d17b-1d182 1d18a-1d18b 1e8d0-1e8d6 de: 59a 5ad 1939 302d e0: 302e-302f e2: 1d16d e4:
  5ae 18a9 1df7-1df8 302b e6: 300-314 33d-33f 342 346 34a-34c 350-352 357 35b 363-36f 483-487
  592-595 597-599 59c-5a1 5a8-5a9 5ab-5ac 5af 5c4 610-617 653-654 657-65b 65d-65e 6d6-6dc 6df-6e2
  6e4 6e7-6e8 6eb-6ec 730 732-733 735-736 73a 73d 73f-741 743 745 747 749-74a 7eb-7f1 7f3 816-819
  81b-823 825-827 829-82d 898 89c-89f 8ca-8ce 8d4-8e1 8e4-8e5 8e7-8e8 8ea-8ec 8f3-8f5 8f7-8f8
  8fb-8ff 951 953-954 9fe f82-f83 f86-f87 135d-135f 17dd 193a 1a17 1a75-1a7c 1ab0-1ab4 1abb-1abc
  1ac1-1ac2 1ac5-1ac9 1acb-1ace 1b6b 1b6d-1b73 1cd0-1cd2 1cda-1cdb 1ce0 1cf4 1cf8-1cf9 1dc0-1dc1
  1dc3-1dc9 1dcb-1dcc 1dd1-1df5 1dfb 1dfe 20d0-20d1 20d4-20d7 20db-20dc 20e1 20e7 20e9 20f0
  2cef-2cf1 2de0-2dff a66f a674-a67d a69e-a69f a6f0-a6f1 a8e0-a8f1 aab0 aab2-aab3 aab7-aab8
  aabe-aabf aac1 fe20-fe26 fe2e-fe2f 10376-1037a 10a0f 10a38 10ae5 10d24-10d27 10eab-10eac
  10f48-10f4a 10f4c 10f82 10f84 11100-11102 11366-1136c 11370-11374 1145e 16b30-16b36 1d185-1d189
  1d1aa-1d1ad 1d242-1d244 1e000-1e006 1e008-1e018 1e01b-1e021 1e023-1e024 1e026-1e02a 1e130-1e136
  1e2ae 1e2ec-1e2ef 1e944-1e949 e8: 315 31a 358 1df6 302c e9: 35c 35f 362 1dfc ea: 35d-35e 360-361
  1dcd"

def underHeads (text : String) : List (Nat × List Char) :=
  ((words text).foldl (fun (head, found) word =>
    if word.getLast? = some ':' then (number word, found) else (head, (head, word) :: found))
    (0, [])).2.reverse

structure Pair where
  first : Nat
  second : Nat
  letter : Nat
  deriving DecidableEq, Repr

def pairs : List Pair :=
  (underHeads pairTable).map fun (first, word) =>
    match Text.splitOn (· == '.') word with
    | [second, letter] => ⟨first, number second, number letter⟩
    | _ => ⟨first, 0, 0⟩

def classRuns : List (Nat × Nat × Nat) :=
  (underHeads classTable).flatMap fun (mark, word) =>
    (Runs.read (String.ofList word)).map fun (first, last) => (first, last, mark)

/-- The class of a mark; what is no mark has class zero. -/
def classOf (n : Nat) : Nat :=
  if n < firstMark then 0
  else
    match classRuns.find? fun (first, last, _) => first ≤ n && n ≤ last with
    | some (_, _, mark) => mark
    | none => 0

/-! ### Syllables

A syllable of the Korean script is composed of a leading consonant, a vowel and perhaps a trailing
consonant, by arithmetic. -/

def syllables : Nat := 0xac00
def leads : Nat := 0x1100
def vowels : Nat := 0x1161
/-- One before the first trailing consonant, so that zero stands for none. -/
def trails : Nat := 0x11a7

def isSyllable (n : Nat) : Bool := syllables ≤ n && n < syllables + 19 * 21 * 28

def takeSyllable (n : Nat) : List Nat :=
  let index := n - syllables
  let trail := index % 28
  [leads + index / (21 * 28), vowels + index % (21 * 28) / 28] ++
    if trail = 0 then [] else [trails + trail]

def makeSyllable? (first second : Nat) : Option Nat :=
  if leads ≤ first ∧ first < leads + 19 ∧ vowels ≤ second ∧ second < vowels + 21 then
    some (syllables + ((first - leads) * 21 + (second - vowels)) * 28)
  else if isSyllable first ∧ (first - syllables) % 28 = 0 ∧ trails < second ∧
      second < trails + 28 then
    some (first + (second - trails))
  else none

/-! ### Decomposition and composition -/

/-- A letter composes at most four times over. -/
def decompose : (depth : Nat) → Nat → List Nat
  | 0, n => [n]
  | depth + 1, n =>
    if n < 128 then [n]
    else if isSyllable n then takeSyllable n
    else
      match pairs.find? (·.letter == n) with
      | some pair => decompose depth pair.first ++ [pair.second]
      | none => [n]

/-- Puts a character in front of an ordered text: a mark goes behind those of lower class. -/
def place (n : Nat) : List Nat → List Nat
  | [] => [n]
  | m :: rest =>
    if 0 < classOf m ∧ classOf m < classOf n then m :: place n rest else n :: m :: rest

def order (ns : List Nat) : List Nat := ns.foldr place []

def compose? (first second : Nat) : Option Nat :=
  if second < firstMark then none
  else
    match makeSyllable? first second with
    | some n => some n
    | none => (pairs.find? fun pair => pair.first == first && pair.second == second).map Pair.letter

/-- Composes a letter with the marks behind it. A mark that does not compose waits in `marks`, and
keeps marks of the same class behind it from the letter. -/
def composeWith (letter : Nat) (marks : List Nat) : List Nat → List Nat
  | [] => letter :: marks
  | n :: rest =>
    let reaches := match marks.getLast? with
      | none => true
      | some mark => classOf mark < classOf n
    match if reaches then compose? letter n else none with
    | some letter => composeWith letter marks rest
    | none =>
      if classOf n = 0 then letter :: marks ++ composeWith n [] rest
      else composeWith letter (marks ++ [n]) rest

def compose : List Nat → List Nat
  | [] => []
  | n :: rest => if classOf n = 0 then composeWith n [] rest else n :: compose rest

def normal (ns : List Nat) : List Nat := compose (order (ns.flatMap (decompose 4)))

end TokenClient.Idna
