import GcodeTemplate.Unicode.Script

/-!
# Characters of several scripts

Some characters are used in a few scripts, whichever script they belong to.
Such a character counts as one of each script that it is used in, and any other
character as one of the script that it belongs to.
-/

namespace GcodeTemplate.Unicode

/-- Characters with the short names of all scripts that they are used in. -/
structure SharedSet where
  scripts : List String
  set : CharSet

/-- The characters that are not just used in the script that they belong to. -/
def sharedSets : List SharedSet := [
  ⟨["Avst", "Cari", "Copt", "Dupl", "Elba", "Geor", "Glag", "Gong", "Goth", "Grek", "Hani",
    "Latn", "Lydi", "Mahj", "Perm", "Shaw"],
    decode ["53 1"]⟩,
  ⟨["Beng", "Cyrl", "Deva", "Latn", "Lisu", "Thai", "Toto"], decode ["jg 1"]⟩,
  ⟨["Bopo", "Latn"], decode ["jr 1 1 3 d 1"]⟩,
  ⟨["Latn", "Lisu"], decode ["jx 1"]⟩,
  ⟨["Latn", "Thai"], decode ["k7 1"]⟩,
  ⟨["Cher", "Copt", "Cyrl", "Grek", "Latn", "Perm", "Sunu", "Tale"],
    decode ["lc 1"]⟩,
  ⟨["Cher", "Cyrl", "Grek", "Latn", "Osge", "Sunu", "Tale", "Todr"],
    decode ["ld 1"]⟩,
  ⟨["Cher", "Cyrl", "Latn", "Tfng"], decode ["le 1"]⟩,
  ⟨["Glag", "Latn", "Sunu", "Syrc", "Thai"], decode ["lf 1"]⟩,
  ⟨["Aghb", "Cher", "Copt", "Cyrl", "Goth", "Grek", "Latn", "Osge", "Syrc", "Tfng", "Todr"],
    decode ["lg 1"]⟩,
  ⟨["Copt", "Elba", "Glag", "Goth", "Kana", "Latn"], decode ["lh 1"]⟩,
  ⟨["Cyrl", "Grek", "Latn", "Perm"], decode ["li 1"]⟩,
  ⟨["Copt", "Dupl", "Hebr", "Latn", "Perm", "Syrc", "Tale", "Tfng", "Todr"],
    decode ["lj 1"]⟩,
  ⟨["Armn", "Cyrl", "Dupl", "Goth", "Grek", "Hebr", "Latn", "Perm", "Syrc", "Tale"],
    decode ["lk 1"]⟩,
  ⟨["Latn", "Tfng"], decode ["ll 1"]⟩,
  ⟨["Dupl", "Latn", "Syrc"], decode ["lm 1"]⟩,
  ⟨["Cher", "Cyrl", "Latn", "Osge"], decode ["ln 1"]⟩,
  ⟨["Cher", "Latn", "Tale"], decode ["lo 1"]⟩,
  ⟨["Latn", "Sunu"], decode ["lp 1 2 1"]⟩,
  ⟨["Ethi", "Latn"], decode ["lq 1"]⟩,
  ⟨["Cyrl", "Latn", "Todr"], decode ["lt 1"]⟩,
  ⟨["Grek", "Latn", "Perm", "Todr"], decode ["lv 1"]⟩,
  ⟨["Latn", "Syrc"], decode ["m8 1 4 1 8 1"]⟩,
  ⟨["Cher", "Dupl", "Kana", "Latn", "Syrc"], decode ["mb 1"]⟩,
  ⟨["Cher", "Dupl", "Latn", "Syrc"], decode ["mc 1"]⟩,
  ⟨["Latn", "Sunu", "Syrc"], decode ["ml 1"]⟩,
  ⟨["Cher", "Latn", "Syrc"], decode ["mo 1"]⟩,
  ⟨["Aghb", "Cher", "Goth", "Latn", "Sunu", "Thai"], decode ["mp 1"]⟩,
  ⟨["Grek"], decode ["n6 1 2 1 58a 2"]⟩,
  ⟨["Latn", "Osge"], decode ["ns 1"]⟩,
  ⟨["Aghb", "Latn", "Todr"], decode ["ny 1"]⟩,
  ⟨["Latn"], decode ["o3 d"]⟩,
  ⟨["Copt", "Grek"], decode ["ok 2"]⟩,
  ⟨["Cyrl", "Perm"], decode ["w3 1"]⟩,
  ⟨["Cyrl", "Glag"], decode ["w4 1 2 1 88r 1 nqj 1"]⟩,
  ⟨["Cyrl", "Latn"], decode ["w5 2"]⟩,
  ⟨["Armn", "Geor", "Glag"], decode ["13d 1"]⟩,
  ⟨["Arab", "Gara", "Nkoo", "Rohg", "Syrc", "Thaa", "Yezi"], decode ["170 1 e 1"]⟩,
  ⟨["Arab", "Syrc", "Thaa"], decode ["17g 1"]⟩,
  ⟨["Adlm", "Arab", "Gara", "Nkoo", "Rohg", "Syrc", "Thaa", "Yezi"],
    decode ["17j 1"]⟩,
  ⟨["Adlm", "Arab", "Mand", "Mani", "Ougr", "Phlp", "Rohg", "Sogd", "Syrc"],
    decode ["18g 1"]⟩,
  ⟨["Arab", "Syrc"], decode ["18r b q 1"]⟩,
  ⟨["Arab", "Thaa", "Yezi"], decode ["19c a"]⟩,
  ⟨["Arab", "Rohg"], decode ["1ck 1"]⟩,
  ⟨["Beng", "Deva", "Gran", "Gujr", "Guru", "Knda", "Latn", "Mlym", "Orya", "Shrd", "Taml",
    "Telu", "Tirh"],
    decode ["1u9 1"]⟩,
  ⟨["Beng", "Deva", "Gran", "Gujr", "Guru", "Knda", "Latn", "Mlym", "Orya", "Taml", "Telu", "Tirh"],
    decode ["1ua 1"]⟩,
  ⟨["Beng", "Deva", "Dogr", "Gong", "Gonm", "Gran", "Gujr", "Guru", "Knda", "Mahj", "Mlym",
    "Nand", "Onao", "Orya", "Sind", "Sinh", "Sylo", "Takr", "Taml", "Telu", "Tirh"],
    decode ["1us 1"]⟩,
  ⟨["Beng", "Deva", "Dogr", "Gong", "Gonm", "Gran", "Gujr", "Gukh", "Guru", "Knda", "Limb",
    "Mahj", "Mlym", "Nand", "Onao", "Orya", "Sind", "Sinh", "Sylo", "Takr", "Taml", "Telu", "Tirh"],
    decode ["1ut 1"]⟩,
  ⟨["Deva", "Dogr", "Kthi", "Mahj"], decode ["1uu a"]⟩,
  ⟨["Beng", "Cakm", "Sylo"], decode ["1ye a"]⟩,
  ⟨["Guru", "Mult"], decode ["21y a"]⟩,
  ⟨["Gujr", "Khoj"], decode ["25i a"]⟩,
  ⟨["Gran", "Taml"], decode ["2cm e 1fyl 1 1 1 1j 2 2hf 2 1 1"]⟩,
  ⟨["Knda", "Nand", "Tutg"], decode ["2jq a"]⟩,
  ⟨["Cakm", "Mymr", "Tale"], decode ["37k a"]⟩,
  ⟨["Geor", "Glag", "Latn"], decode ["3cr 1"]⟩,
  ⟨["Runr"], decode ["4iz 3"]⟩,
  ⟨["Buhd", "Hano", "Tagb", "Tglg"], decode ["4l1 2"]⟩,
  ⟨["Mong", "Phag"], decode ["4qq 2 1 1"]⟩,
  ⟨["Beng", "Deva", "Gran", "Knda"], decode ["5ow 1 1 1"]⟩,
  ⟨["Deva"], decode ["5ox 1 2 1 6 1 2 2 2 7 2 2 1 4"]⟩,
  ⟨["Deva", "Gran", "Knda"], decode ["5oz 1"]⟩,
  ⟨["Beng", "Deva"], decode ["5p1 2 1 1 8 1 8 1 2 1 7 2"]⟩,
  ⟨["Deva", "Shrd"], decode ["5p3 1 1 1 2 2 2 1"]⟩,
  ⟨["Deva", "Knda", "Mlym", "Orya", "Taml", "Telu"], decode ["5p6 1"]⟩,
  ⟨["Deva", "Nand"], decode ["5pl 1"]⟩,
  ⟨["Beng", "Deva", "Gran", "Knda", "Mlym", "Nand", "Orya", "Sinh", "Telu", "Tirh", "Tutg"],
    decode ["5pu 1"]⟩,
  ⟨["Deva", "Gran"], decode ["5pv 1 4 2"]⟩,
  ⟨["Deva", "Gran", "Knda", "Tutg"], decode ["5pw 1"]⟩,
  ⟨["Beng"], decode ["5pz 1"]⟩,
  ⟨["Nand"], decode ["5q2 1"]⟩,
  ⟨["Cyrl", "Latn", "Syrc"], decode ["5x4 1"]⟩,
  ⟨["Syrc"], decode ["5x6 1"]⟩,
  ⟨["Latn", "Mong", "Phag"], decode ["6cv 1"]⟩,
  ⟨["Adlm", "Arab"], decode ["6dr 1"]⟩,
  ⟨["Cari", "Geor", "Glag", "Hung", "Lyci", "Orkh"], decode ["6e2 1"]⟩,
  ⟨["Cari", "Grek", "Hung", "Mero"], decode ["6e5 1"]⟩,
  ⟨["Deva", "Gran", "Latn"], decode ["6i8 1"]⟩,
  ⟨["Copt", "Latn"], decode ["93r 1"]⟩,
  ⟨["Avst", "Orkh"], decode ["94g 1"]⟩,
  ⟨["Avst", "Cari", "Geor", "Hung", "Kthi", "Lydi", "Samr"], decode ["94h 1"]⟩,
  ⟨["Dupl"], decode ["94s 1 26oz 4"]⟩,
  ⟨["Adlm", "Arab", "Hung"], decode ["94x 1"]⟩,
  ⟨["Hani", "Tang"], decode ["9gw g dr 1"]⟩,
  ⟨["Bopo", "Hang", "Hani", "Hira", "Kana", "Mong", "Yiii"], decode ["9hd 1"]⟩,
  ⟨["Bopo", "Hang", "Hani", "Hira", "Kana", "Mong", "Phag", "Yiii"],
    decode ["9he 1"]⟩,
  ⟨["Bopo", "Hang", "Hani", "Hira", "Kana"], decode ["9hf 1 f 1 8 4 g 1 6 1 14p9 2"]⟩,
  ⟨["Hani"], decode ["9hi 1 1j 2 9c g w 12 1m 14 1k 1d f c 1f 1 2g p a 5 2o v 2a1t i 63i 2"]⟩,
  ⟨["Bopo", "Hang", "Hani", "Hira", "Kana", "Mong", "Tibt", "Yiii"],
    decode ["9hk 2"]⟩,
  ⟨["Bopo", "Hang", "Hani", "Hira", "Kana", "Lisu", "Mong", "Tibt", "Yiii"],
    decode ["9hm 2"]⟩,
  ⟨["Bopo", "Hang", "Hani", "Hira", "Kana", "Yiii"], decode ["9ho 6 2 8 67 1 14rp 5"]⟩,
  ⟨["Bopo", "Hani"], decode ["9ii 4"]⟩,
  ⟨["Hira", "Kana"], decode ["9ip 5 2r 4 3 1 2j 1 14s3 1 19 2"]⟩,
  ⟨["Hani", "Hira", "Kana"], decode ["9j0 2"]⟩,
  ⟨["Hani", "Latn"], decode ["wzk 8"]⟩,
  ⟨["Deva", "Dogr", "Gujr", "Guru", "Khoj", "Knda", "Kthi", "Mahj", "Mlym", "Modi", "Nand",
    "Shrd", "Sind", "Takr", "Tirh", "Tutg"],
    decode ["x80 3"]⟩,
  ⟨["Deva", "Dogr", "Gujr", "Guru", "Khoj", "Knda", "Kthi", "Mahj", "Modi", "Nand", "Shrd",
    "Sind", "Takr", "Tirh", "Tutg"],
    decode ["x83 3"]⟩,
  ⟨["Deva", "Dogr", "Gujr", "Guru", "Khoj", "Kthi", "Mahj", "Modi", "Sind", "Takr", "Tirh"],
    decode ["x86 2 1 1"]⟩,
  ⟨["Deva", "Dogr", "Gujr", "Guru", "Khoj", "Kthi", "Mahj", "Modi", "Shrd", "Sind", "Takr", "Tirh"],
    decode ["x88 1"]⟩,
  ⟨["Beng", "Deva", "Tutg"], decode ["xdd 1"]⟩,
  ⟨["Deva", "Taml"], decode ["xdf 1"]⟩,
  ⟨["Kali", "Latn", "Mymr"], decode ["xf2 1"]⟩,
  ⟨["Bugi", "Java"], decode ["xjj 1"]⟩,
  ⟨["Arab", "Nkoo"], decode ["1e0u 2"]⟩,
  ⟨["Arab", "Thaa"], decode ["1e5u 1 a 1"]⟩,
  ⟨["Cpmn", "Cprt", "Linb"], decode ["1erk 2"]⟩,
  ⟨["Cprt", "Linb"], decode ["1erm 1 1g 9"]⟩,
  ⟨["Cprt", "Lina", "Linb"], decode ["1err 19"]⟩,
  ⟨["Arab", "Copt"], decode ["1f4w s"]⟩,
  ⟨["Mani", "Ougr"], decode ["1gqa 1"]⟩]

/-- The characters that are used in a script. -/
def usedInScript (script : NamedSet) : CharSet :=
  let shared := sharedSets.filter fun entry => script.names.any entry.scripts.contains
  (script.set.diff (.unions (sharedSets.map (·.set)))).union (.unions (shared.map (·.set)))

/-- The characters that are used in a script of a given name. -/
def scriptExtension? (name : String) : Option CharSet :=
  (NamedSet.withName? name scripts).map usedInScript

end GcodeTemplate.Unicode
