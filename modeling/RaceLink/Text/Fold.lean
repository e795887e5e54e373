import RaceLink.Text.Table

/-!
# Folding a name

Two spellings of a name that people take for the same are folded into one: capital letters into
small ones, letters of another width or font into plain ones, ligatures into their letters.  Some
characters leave no trace, and some are not allowed in a name at all.

* `Fold.rows` — what a character becomes, for those that do not stay as they are.
* `Fold.refused` — the characters that no name may contain.
* `Fold.char` — what becomes of one character.

The data are those of Unicode's compatibility processing of international domain names, with
letters kept that an older processing replaced.  All of ASCII apart from the capital letters stays
as it is.
-/

set_option autoImplicit false

namespace RaceLink
namespace Text
namespace Fold

/-- Of the letters of the alphabets. -/
def letters : List Row :=
  [.one 0xa0 [0x20], .one 0xa8 [0x20, 0x308], .one 0xaa [0x61], .one 0xaf [0x20, 0x304],
   .each 0xb2 0xb3 [0x32], .one 0xb4 [0x20, 0x301], .one 0xb5 [0x3bc], .one 0xb8 [0x20, 0x327],
   .one 0xb9 [0x31], .one 0xba [0x6f], .one 0xbc [0x31, 0x2044, 0x34],
   .one 0xbd [0x31, 0x2044, 0x32], .one 0xbe [0x33, 0x2044, 0x34], .each 0xc0 0xd6 [0xe0],
   .each 0xd8 0xde [0xf8], .other 0x100 0x12e [0x101], .one 0x130 [0x69, 0x307],
   .same 0x132 0x133 [0x69, 0x6a], .other 0x134 0x136 [0x135], .other 0x139 0x13d [0x13a],
   .same 0x13f 0x140 [0x6c, 0xb7], .other 0x141 0x147 [0x142], .one 0x149 [0x2bc, 0x6e],
   .other 0x14a 0x176 [0x14b], .one 0x178 [0xff], .other 0x179 0x17d [0x17a], .one 0x17f [0x73],
   .one 0x181 [0x253], .other 0x182 0x184 [0x183], .one 0x186 [0x254], .one 0x187 [0x188],
   .each 0x189 0x18a [0x256], .one 0x18b [0x18c], .one 0x18e [0x1dd], .one 0x18f [0x259],
   .one 0x190 [0x25b], .one 0x191 [0x192], .one 0x193 [0x260], .one 0x194 [0x263],
   .one 0x196 [0x269], .one 0x197 [0x268], .one 0x198 [0x199], .one 0x19c [0x26f],
   .one 0x19d [0x272], .one 0x19f [0x275], .other 0x1a0 0x1a4 [0x1a1], .one 0x1a6 [0x280],
   .one 0x1a7 [0x1a8], .one 0x1a9 [0x283], .one 0x1ac [0x1ad], .one 0x1ae [0x288],
   .one 0x1af [0x1b0], .each 0x1b1 0x1b2 [0x28a], .other 0x1b3 0x1b5 [0x1b4], .one 0x1b7 [0x292],
   .one 0x1b8 [0x1b9], .one 0x1bc [0x1bd], .same 0x1c4 0x1c6 [0x64, 0x17e],
   .same 0x1c7 0x1c9 [0x6c, 0x6a], .same 0x1ca 0x1cc [0x6e, 0x6a], .other 0x1cd 0x1db [0x1ce],
   .other 0x1de 0x1ee [0x1df], .same 0x1f1 0x1f3 [0x64, 0x7a], .one 0x1f4 [0x1f5],
   .one 0x1f6 [0x195], .one 0x1f7 [0x1bf], .other 0x1f8 0x21e [0x1f9], .one 0x220 [0x19e],
   .other 0x222 0x232 [0x223], .one 0x23a [0x2c65], .one 0x23b [0x23c], .one 0x23d [0x19a],
   .one 0x23e [0x2c66], .one 0x241 [0x242], .one 0x243 [0x180], .one 0x244 [0x289],
   .one 0x245 [0x28c], .other 0x246 0x24e [0x247], .other 0x2b0 0x2b2 [0x68], .one 0x2b1 [0x266],
   .one 0x2b3 [0x72], .one 0x2b4 [0x279], .one 0x2b5 [0x27b], .one 0x2b6 [0x281], .one 0x2b7 [0x77],
   .one 0x2b8 [0x79], .one 0x2d8 [0x20, 0x306], .one 0x2d9 [0x20, 0x307], .one 0x2da [0x20, 0x30a],
   .one 0x2db [0x20, 0x328], .one 0x2dc [0x20, 0x303], .one 0x2dd [0x20, 0x30b], .one 0x2e0 [0x263],
   .one 0x2e1 [0x6c], .one 0x2e2 [0x73], .one 0x2e3 [0x78], .one 0x2e4 [0x295],
   .each 0x340 0x341 [0x300], .one 0x343 [0x313], .one 0x344 [0x308, 0x301], .one 0x345 [0x3b9],
   .other 0x370 0x372 [0x371], .one 0x374 [0x2b9], .one 0x376 [0x377], .one 0x37a [0x20, 0x3b9],
   .one 0x37e [0x3b], .one 0x37f [0x3f3], .one 0x384 [0x20, 0x301], .one 0x385 [0x20, 0x308, 0x301],
   .one 0x386 [0x3ac], .one 0x387 [0xb7], .each 0x388 0x38a [0x3ad], .one 0x38c [0x3cc],
   .each 0x38e 0x38f [0x3cd], .each 0x391 0x3a1 [0x3b1], .each 0x3a3 0x3ab [0x3c3],
   .one 0x3cf [0x3d7], .one 0x3d0 [0x3b2], .one 0x3d1 [0x3b8], .one 0x3d2 [0x3c5],
   .one 0x3d3 [0x3cd], .one 0x3d4 [0x3cb], .one 0x3d5 [0x3c6], .one 0x3d6 [0x3c0],
   .other 0x3d8 0x3ee [0x3d9], .one 0x3f0 [0x3ba], .one 0x3f1 [0x3c1], .one 0x3f2 [0x3c3],
   .one 0x3f4 [0x3b8], .one 0x3f5 [0x3b5], .one 0x3f7 [0x3f8], .one 0x3f9 [0x3c3],
   .one 0x3fa [0x3fb], .each 0x3fd 0x3ff [0x37b], .each 0x400 0x40f [0x450],
   .each 0x410 0x42f [0x430], .other 0x460 0x480 [0x461], .other 0x48a 0x4be [0x48b],
   .one 0x4c0 [0x4cf], .other 0x4c1 0x4cd [0x4c2], .other 0x4d0 0x52e [0x4d1],
   .each 0x531 0x556 [0x561], .one 0x587 [0x565, 0x582], .one 0x675 [0x627, 0x674],
   .one 0x676 [0x648, 0x674], .one 0x677 [0x6c7, 0x674], .one 0x678 [0x64a, 0x674],
   .one 0x958 [0x915, 0x93c], .one 0x959 [0x916, 0x93c], .one 0x95a [0x917, 0x93c],
   .one 0x95b [0x91c, 0x93c], .one 0x95c [0x921, 0x93c], .one 0x95d [0x922, 0x93c],
   .one 0x95e [0x92b, 0x93c], .one 0x95f [0x92f, 0x93c], .one 0x9dc [0x9a1, 0x9bc],
   .one 0x9dd [0x9a2, 0x9bc], .one 0x9df [0x9af, 0x9bc], .one 0xa33 [0xa32, 0xa3c],
   .one 0xa36 [0xa38, 0xa3c], .one 0xa59 [0xa16, 0xa3c], .one 0xa5a [0xa17, 0xa3c],
   .one 0xa5b [0xa1c, 0xa3c], .one 0xa5e [0xa2b, 0xa3c], .one 0xb5c [0xb21, 0xb3c],
   .one 0xb5d [0xb22, 0xb3c], .one 0xe33 [0xe4d, 0xe32], .one 0xeb3 [0xecd, 0xeb2],
   .one 0xedc [0xeab, 0xe99], .one 0xedd [0xeab, 0xea1], .one 0xf0c [0xf0b],
   .one 0xf43 [0xf42, 0xfb7], .one 0xf4d [0xf4c, 0xfb7], .one 0xf52 [0xf51, 0xfb7],
   .one 0xf57 [0xf56, 0xfb7], .one 0xf5c [0xf5b, 0xfb7], .one 0xf69 [0xf40, 0xfb5],
   .one 0xf73 [0xf71, 0xf72], .one 0xf75 [0xf71, 0xf74], .one 0xf76 [0xfb2, 0xf80],
   .one 0xf77 [0xfb2, 0xf71, 0xf80], .one 0xf78 [0xfb3, 0xf80], .one 0xf79 [0xfb3, 0xf71, 0xf80],
   .one 0xf81 [0xf71, 0xf80], .one 0xf93 [0xf92, 0xfb7], .one 0xf9d [0xf9c, 0xfb7],
   .one 0xfa2 [0xfa1, 0xfb7], .one 0xfa7 [0xfa6, 0xfb7], .one 0xfac [0xfab, 0xfb7],
   .one 0xfb9 [0xf90, 0xfb5], .each 0x10a0 0x10c5 [0x2d00], .one 0x10c7 [0x2d27],
   .one 0x10cd [0x2d2d], .one 0x10fc [0x10dc], .each 0x13f8 0x13fd [0x13f0], .one 0x1c80 [0x432],
   .one 0x1c81 [0x434], .one 0x1c82 [0x43e], .each 0x1c83 0x1c84 [0x441], .one 0x1c85 [0x442],
   .one 0x1c86 [0x44a], .one 0x1c87 [0x463], .one 0x1c88 [0xa64b], .one 0x1c89 [0x1c8a],
   .each 0x1c90 0x1cba [0x10d0], .each 0x1cbd 0x1cbf [0x10fd], .one 0x1d2c [0x61],
   .one 0x1d2d [0xe6], .other 0x1d2e 0x1d30 [0x62], .other 0x1d31 0x1d39 [0x65],
   .one 0x1d32 [0x1dd], .other 0x1d34 0x1d3a [0x68], .one 0x1d3c [0x6f], .one 0x1d3d [0x223],
   .one 0x1d3e [0x70], .one 0x1d3f [0x72], .each 0x1d40 0x1d41 [0x74], .one 0x1d42 [0x77],
   .one 0x1d43 [0x61], .each 0x1d44 0x1d45 [0x250], .one 0x1d46 [0x1d02], .one 0x1d47 [0x62],
   .each 0x1d48 0x1d49 [0x64], .one 0x1d4a [0x259], .each 0x1d4b 0x1d4c [0x25b], .one 0x1d4d [0x67],
   .one 0x1d4f [0x6b], .other 0x1d50 0x1d52 [0x6d], .one 0x1d51 [0x14b], .one 0x1d53 [0x254],
   .each 0x1d54 0x1d55 [0x1d16], .one 0x1d56 [0x70], .each 0x1d57 0x1d58 [0x74],
   .one 0x1d59 [0x1d1d], .one 0x1d5a [0x26f], .one 0x1d5b [0x76], .one 0x1d5c [0x1d25],
   .each 0x1d5d 0x1d5f [0x3b2], .each 0x1d60 0x1d61 [0x3c6], .one 0x1d62 [0x69], .one 0x1d63 [0x72],
   .each 0x1d64 0x1d65 [0x75], .each 0x1d66 0x1d67 [0x3b2], .one 0x1d68 [0x3c1],
   .each 0x1d69 0x1d6a [0x3c6], .one 0x1d78 [0x43d], .one 0x1d9b [0x252], .one 0x1d9c [0x63],
   .one 0x1d9d [0x255], .one 0x1d9e [0xf0], .one 0x1d9f [0x25c], .one 0x1da0 [0x66],
   .one 0x1da1 [0x25f], .one 0x1da2 [0x261], .one 0x1da3 [0x265], .each 0x1da4 0x1da6 [0x268],
   .one 0x1da7 [0x1d7b], .one 0x1da8 [0x29d], .one 0x1da9 [0x26d], .one 0x1daa [0x1d85],
   .one 0x1dab [0x29f], .one 0x1dac [0x271], .one 0x1dad [0x270], .each 0x1dae 0x1db1 [0x272],
   .one 0x1db2 [0x278], .each 0x1db3 0x1db4 [0x282], .one 0x1db5 [0x1ab],
   .each 0x1db6 0x1db7 [0x289], .one 0x1db8 [0x1d1c], .each 0x1db9 0x1dba [0x28b],
   .one 0x1dbb [0x7a], .each 0x1dbc 0x1dbe [0x290], .one 0x1dbf [0x3b8],
   .other 0x1e00 0x1e94 [0x1e01], .one 0x1e9a [0x61, 0x2be], .one 0x1e9b [0x1e61],
   .one 0x1e9e [0xdf], .other 0x1ea0 0x1efe [0x1ea1], .each 0x1f08 0x1f0f [0x1f00],
   .each 0x1f18 0x1f1d [0x1f10], .each 0x1f28 0x1f2f [0x1f20], .each 0x1f38 0x1f3f [0x1f30],
   .each 0x1f48 0x1f4d [0x1f40], .other 0x1f59 0x1f5f [0x1f51], .each 0x1f68 0x1f6f [0x1f60],
   .one 0x1f71 [0x3ac], .one 0x1f73 [0x3ad], .one 0x1f75 [0x3ae], .one 0x1f77 [0x3af],
   .one 0x1f79 [0x3cc], .one 0x1f7b [0x3cd], .one 0x1f7d [0x3ce], .one 0x1f80 [0x1f00, 0x3b9],
   .one 0x1f81 [0x1f01, 0x3b9], .one 0x1f82 [0x1f02, 0x3b9], .one 0x1f83 [0x1f03, 0x3b9],
   .one 0x1f84 [0x1f04, 0x3b9], .one 0x1f85 [0x1f05, 0x3b9], .one 0x1f86 [0x1f06, 0x3b9],
   .one 0x1f87 [0x1f07, 0x3b9], .one 0x1f88 [0x1f00, 0x3b9], .one 0x1f89 [0x1f01, 0x3b9],
   .one 0x1f8a [0x1f02, 0x3b9], .one 0x1f8b [0x1f03, 0x3b9], .one 0x1f8c [0x1f04, 0x3b9],
   .one 0x1f8d [0x1f05, 0x3b9], .one 0x1f8e [0x1f06, 0x3b9], .one 0x1f8f [0x1f07, 0x3b9],
   .one 0x1f90 [0x1f20, 0x3b9], .one 0x1f91 [0x1f21, 0x3b9], .one 0x1f92 [0x1f22, 0x3b9],
   .one 0x1f93 [0x1f23, 0x3b9], .one 0x1f94 [0x1f24, 0x3b9], .one 0x1f95 [0x1f25, 0x3b9],
   .one 0x1f96 [0x1f26, 0x3b9], .one 0x1f97 [0x1f27, 0x3b9], .one 0x1f98 [0x1f20, 0x3b9],
   .one 0x1f99 [0x1f21, 0x3b9], .one 0x1f9a [0x1f22, 0x3b9], .one 0x1f9b [0x1f23, 0x3b9],
   .one 0x1f9c [0x1f24, 0x3b9], .one 0x1f9d [0x1f25, 0x3b9], .one 0x1f9e [0x1f26, 0x3b9],
   .one 0x1f9f [0x1f27, 0x3b9], .one 0x1fa0 [0x1f60, 0x3b9], .one 0x1fa1 [0x1f61, 0x3b9],
   .one 0x1fa2 [0x1f62, 0x3b9], .one 0x1fa3 [0x1f63, 0x3b9], .one 0x1fa4 [0x1f64, 0x3b9],
   .one 0x1fa5 [0x1f65, 0x3b9], .one 0x1fa6 [0x1f66, 0x3b9], .one 0x1fa7 [0x1f67, 0x3b9],
   .one 0x1fa8 [0x1f60, 0x3b9], .one 0x1fa9 [0x1f61, 0x3b9], .one 0x1faa [0x1f62, 0x3b9],
   .one 0x1fab [0x1f63, 0x3b9], .one 0x1fac [0x1f64, 0x3b9], .one 0x1fad [0x1f65, 0x3b9],
   .one 0x1fae [0x1f66, 0x3b9], .one 0x1faf [0x1f67, 0x3b9], .one 0x1fb2 [0x1f70, 0x3b9],
   .one 0x1fb3 [0x3b1, 0x3b9], .one 0x1fb4 [0x3ac, 0x3b9], .one 0x1fb7 [0x1fb6, 0x3b9],
   .each 0x1fb8 0x1fb9 [0x1fb0], .one 0x1fba [0x1f70], .one 0x1fbb [0x3ac],
   .one 0x1fbc [0x3b1, 0x3b9], .one 0x1fbd [0x20, 0x313], .one 0x1fbe [0x3b9],
   .one 0x1fbf [0x20, 0x313], .one 0x1fc0 [0x20, 0x342], .one 0x1fc1 [0x20, 0x308, 0x342],
   .one 0x1fc2 [0x1f74, 0x3b9], .one 0x1fc3 [0x3b7, 0x3b9], .one 0x1fc4 [0x3ae, 0x3b9],
   .one 0x1fc7 [0x1fc6, 0x3b9], .other 0x1fc8 0x1fca [0x1f72], .one 0x1fc9 [0x3ad],
   .one 0x1fcb [0x3ae], .one 0x1fcc [0x3b7, 0x3b9], .one 0x1fcd [0x20, 0x313, 0x300],
   .one 0x1fce [0x20, 0x313, 0x301], .one 0x1fcf [0x20, 0x313, 0x342], .one 0x1fd3 [0x390],
   .each 0x1fd8 0x1fd9 [0x1fd0], .one 0x1fda [0x1f76], .one 0x1fdb [0x3af],
   .one 0x1fdd [0x20, 0x314, 0x300], .one 0x1fde [0x20, 0x314, 0x301],
   .one 0x1fdf [0x20, 0x314, 0x342], .one 0x1fe3 [0x3b0], .each 0x1fe8 0x1fe9 [0x1fe0],
   .one 0x1fea [0x1f7a], .one 0x1feb [0x3cd], .one 0x1fec [0x1fe5],
   .one 0x1fed [0x20, 0x308, 0x300], .one 0x1fee [0x20, 0x308, 0x301], .one 0x1fef [0x60],
   .one 0x1ff2 [0x1f7c, 0x3b9], .one 0x1ff3 [0x3c9, 0x3b9], .one 0x1ff4 [0x3ce, 0x3b9],
   .one 0x1ff7 [0x1ff6, 0x3b9], .one 0x1ff8 [0x1f78], .other 0x1ff9 0x1ffb [0x3cc],
   .one 0x1ffa [0x1f7c], .one 0x1ffc [0x3c9, 0x3b9], .one 0x1ffd [0x20, 0x301],
   .one 0x1ffe [0x20, 0x314]]

/-- Of signs, and of the parts that ideographs are made of. -/
def signs : List Row :=
  [.same 0x2000 0x200a [0x20], .one 0x2011 [0x2010], .one 0x2017 [0x20, 0x333], .one 0x202f [0x20],
   .one 0x2033 [0x2032, 0x2032], .one 0x2034 [0x2032, 0x2032, 0x2032], .one 0x2036 [0x2035, 0x2035],
   .one 0x2037 [0x2035, 0x2035, 0x2035], .one 0x203c [0x21, 0x21], .one 0x203e [0x20, 0x305],
   .one 0x2047 [0x3f, 0x3f], .one 0x2048 [0x3f, 0x21], .one 0x2049 [0x21, 0x3f],
   .one 0x2057 [0x2032, 0x2032, 0x2032, 0x2032], .one 0x205f [0x20], .one 0x2070 [0x30],
   .one 0x2071 [0x69], .each 0x2074 0x2079 [0x34], .one 0x207a [0x2b], .one 0x207b [0x2212],
   .one 0x207c [0x3d], .each 0x207d 0x207e [0x28], .one 0x207f [0x6e], .each 0x2080 0x2089 [0x30],
   .one 0x208a [0x2b], .one 0x208b [0x2212], .one 0x208c [0x3d], .each 0x208d 0x208e [0x28],
   .one 0x2090 [0x61], .one 0x2091 [0x65], .one 0x2092 [0x6f], .one 0x2093 [0x78],
   .one 0x2094 [0x259], .one 0x2095 [0x68], .each 0x2096 0x2099 [0x6b], .one 0x209a [0x70],
   .each 0x209b 0x209c [0x73], .one 0x20a8 [0x72, 0x73], .one 0x2100 [0x61, 0x2f, 0x63],
   .one 0x2101 [0x61, 0x2f, 0x73], .one 0x2102 [0x63], .one 0x2103 [0xb0, 0x63],
   .one 0x2105 [0x63, 0x2f, 0x6f], .one 0x2106 [0x63, 0x2f, 0x75], .one 0x2107 [0x25b],
   .one 0x2109 [0xb0, 0x66], .each 0x210a 0x210b [0x67], .same 0x210c 0x210e [0x68],
   .one 0x210f [0x127], .same 0x2110 0x2111 [0x69], .same 0x2112 0x2113 [0x6c], .one 0x2115 [0x6e],
   .one 0x2116 [0x6e, 0x6f], .each 0x2119 0x211b [0x70], .same 0x211c 0x211d [0x72],
   .one 0x2120 [0x73, 0x6d], .one 0x2121 [0x74, 0x65, 0x6c], .one 0x2122 [0x74, 0x6d],
   .one 0x2124 [0x7a], .one 0x2126 [0x3c9], .one 0x2128 [0x7a], .one 0x212a [0x6b],
   .one 0x212b [0xe5], .each 0x212c 0x212d [0x62], .same 0x212f 0x2130 [0x65], .one 0x2131 [0x66],
   .one 0x2132 [0x214e], .one 0x2133 [0x6d], .one 0x2134 [0x6f], .each 0x2135 0x2138 [0x5d0],
   .one 0x2139 [0x69], .one 0x213b [0x66, 0x61, 0x78], .one 0x213c [0x3c0],
   .same 0x213d 0x213e [0x3b3], .one 0x213f [0x3c0], .one 0x2140 [0x2211],
   .same 0x2145 0x2146 [0x64], .one 0x2147 [0x65], .each 0x2148 0x2149 [0x69],
   .one 0x2150 [0x31, 0x2044, 0x37], .one 0x2151 [0x31, 0x2044, 0x39],
   .one 0x2152 [0x31, 0x2044, 0x31, 0x30], .one 0x2153 [0x31, 0x2044, 0x33],
   .one 0x2154 [0x32, 0x2044, 0x33], .one 0x2155 [0x31, 0x2044, 0x35],
   .one 0x2156 [0x32, 0x2044, 0x35], .one 0x2157 [0x33, 0x2044, 0x35],
   .one 0x2158 [0x34, 0x2044, 0x35], .one 0x2159 [0x31, 0x2044, 0x36],
   .one 0x215a [0x35, 0x2044, 0x36], .one 0x215b [0x31, 0x2044, 0x38],
   .one 0x215c [0x33, 0x2044, 0x38], .one 0x215d [0x35, 0x2044, 0x38],
   .one 0x215e [0x37, 0x2044, 0x38], .one 0x215f [0x31, 0x2044], .one 0x2160 [0x69],
   .one 0x2161 [0x69, 0x69], .one 0x2162 [0x69, 0x69, 0x69], .one 0x2163 [0x69, 0x76],
   .one 0x2164 [0x76], .one 0x2165 [0x76, 0x69], .one 0x2166 [0x76, 0x69, 0x69],
   .one 0x2167 [0x76, 0x69, 0x69, 0x69], .one 0x2168 [0x69, 0x78], .one 0x2169 [0x78],
   .one 0x216a [0x78, 0x69], .one 0x216b [0x78, 0x69, 0x69], .one 0x216c [0x6c],
   .each 0x216d 0x216e [0x63], .one 0x216f [0x6d], .one 0x2170 [0x69], .one 0x2171 [0x69, 0x69],
   .one 0x2172 [0x69, 0x69, 0x69], .one 0x2173 [0x69, 0x76], .one 0x2174 [0x76],
   .one 0x2175 [0x76, 0x69], .one 0x2176 [0x76, 0x69, 0x69], .one 0x2177 [0x76, 0x69, 0x69, 0x69],
   .one 0x2178 [0x69, 0x78], .one 0x2179 [0x78], .one 0x217a [0x78, 0x69],
   .one 0x217b [0x78, 0x69, 0x69], .one 0x217c [0x6c], .each 0x217d 0x217e [0x63],
   .one 0x217f [0x6d], .one 0x2183 [0x2184], .one 0x2189 [0x30, 0x2044, 0x33],
   .one 0x222c [0x222b, 0x222b], .one 0x222d [0x222b, 0x222b, 0x222b], .one 0x222f [0x222e, 0x222e],
   .one 0x2230 [0x222e, 0x222e, 0x222e], .each 0x2329 0x232a [0x3008], .each 0x2460 0x2468 [0x31],
   .one 0x2469 [0x31, 0x30], .one 0x246a [0x31, 0x31], .one 0x246b [0x31, 0x32],
   .one 0x246c [0x31, 0x33], .one 0x246d [0x31, 0x34], .one 0x246e [0x31, 0x35],
   .one 0x246f [0x31, 0x36], .one 0x2470 [0x31, 0x37], .one 0x2471 [0x31, 0x38],
   .one 0x2472 [0x31, 0x39], .one 0x2473 [0x32, 0x30], .one 0x2474 [0x28, 0x31, 0x29],
   .one 0x2475 [0x28, 0x32, 0x29], .one 0x2476 [0x28, 0x33, 0x29], .one 0x2477 [0x28, 0x34, 0x29],
   .one 0x2478 [0x28, 0x35, 0x29], .one 0x2479 [0x28, 0x36, 0x29], .one 0x247a [0x28, 0x37, 0x29],
   .one 0x247b [0x28, 0x38, 0x29], .one 0x247c [0x28, 0x39, 0x29],
   .one 0x247d [0x28, 0x31, 0x30, 0x29], .one 0x247e [0x28, 0x31, 0x31, 0x29],
   .one 0x247f [0x28, 0x31, 0x32, 0x29], .one 0x2480 [0x28, 0x31, 0x33, 0x29],
   .one 0x2481 [0x28, 0x31, 0x34, 0x29], .one 0x2482 [0x28, 0x31, 0x35, 0x29],
   .one 0x2483 [0x28, 0x31, 0x36, 0x29], .one 0x2484 [0x28, 0x31, 0x37, 0x29],
   .one 0x2485 [0x28, 0x31, 0x38, 0x29], .one 0x2486 [0x28, 0x31, 0x39, 0x29],
   .one 0x2487 [0x28, 0x32, 0x30, 0x29], .one 0x249c [0x28, 0x61, 0x29],
   .one 0x249d [0x28, 0x62, 0x29], .one 0x249e [0x28, 0x63, 0x29], .one 0x249f [0x28, 0x64, 0x29],
   .one 0x24a0 [0x28, 0x65, 0x29], .one 0x24a1 [0x28, 0x66, 0x29], .one 0x24a2 [0x28, 0x67, 0x29],
   .one 0x24a3 [0x28, 0x68, 0x29], .one 0x24a4 [0x28, 0x69, 0x29], .one 0x24a5 [0x28, 0x6a, 0x29],
   .one 0x24a6 [0x28, 0x6b, 0x29], .one 0x24a7 [0x28, 0x6c, 0x29], .one 0x24a8 [0x28, 0x6d, 0x29],
   .one 0x24a9 [0x28, 0x6e, 0x29], .one 0x24aa [0x28, 0x6f, 0x29], .one 0x24ab [0x28, 0x70, 0x29],
   .one 0x24ac [0x28, 0x71, 0x29], .one 0x24ad [0x28, 0x72, 0x29], .one 0x24ae [0x28, 0x73, 0x29],
   .one 0x24af [0x28, 0x74, 0x29], .one 0x24b0 [0x28, 0x75, 0x29], .one 0x24b1 [0x28, 0x76, 0x29],
   .one 0x24b2 [0x28, 0x77, 0x29], .one 0x24b3 [0x28, 0x78, 0x29], .one 0x24b4 [0x28, 0x79, 0x29],
   .one 0x24b5 [0x28, 0x7a, 0x29], .each 0x24b6 0x24cf [0x61], .each 0x24d0 0x24e9 [0x61],
   .one 0x24ea [0x30], .one 0x2a0c [0x222b, 0x222b, 0x222b, 0x222b], .one 0x2a74 [0x3a, 0x3a, 0x3d],
   .one 0x2a75 [0x3d, 0x3d], .one 0x2a76 [0x3d, 0x3d, 0x3d], .one 0x2adc [0x2add, 0x338],
   .each 0x2c00 0x2c2f [0x2c30], .one 0x2c60 [0x2c61], .one 0x2c62 [0x26b], .one 0x2c63 [0x1d7d],
   .one 0x2c64 [0x27d], .other 0x2c67 0x2c6b [0x2c68], .one 0x2c6d [0x251], .one 0x2c6e [0x271],
   .one 0x2c6f [0x250], .one 0x2c70 [0x252], .one 0x2c72 [0x2c73], .one 0x2c75 [0x2c76],
   .one 0x2c7c [0x6a], .one 0x2c7d [0x76], .each 0x2c7e 0x2c7f [0x23f],
   .other 0x2c80 0x2ce2 [0x2c81], .other 0x2ceb 0x2ced [0x2cec], .one 0x2cf2 [0x2cf3],
   .one 0x2d6f [0x2d61], .one 0x2e9f [0x6bcd], .one 0x2ef3 [0x9f9f], .one 0x2f00 [0x4e00],
   .one 0x2f01 [0x4e28], .one 0x2f02 [0x4e36], .one 0x2f03 [0x4e3f], .one 0x2f04 [0x4e59],
   .one 0x2f05 [0x4e85], .one 0x2f06 [0x4e8c], .one 0x2f07 [0x4ea0], .one 0x2f08 [0x4eba],
   .one 0x2f09 [0x513f], .one 0x2f0a [0x5165], .one 0x2f0b [0x516b], .one 0x2f0c [0x5182],
   .one 0x2f0d [0x5196], .one 0x2f0e [0x51ab], .one 0x2f0f [0x51e0], .one 0x2f10 [0x51f5],
   .one 0x2f11 [0x5200], .one 0x2f12 [0x529b], .one 0x2f13 [0x52f9], .one 0x2f14 [0x5315],
   .one 0x2f15 [0x531a], .one 0x2f16 [0x5338], .one 0x2f17 [0x5341], .one 0x2f18 [0x535c],
   .one 0x2f19 [0x5369], .one 0x2f1a [0x5382], .one 0x2f1b [0x53b6], .one 0x2f1c [0x53c8],
   .one 0x2f1d [0x53e3], .one 0x2f1e [0x56d7], .one 0x2f1f [0x571f], .one 0x2f20 [0x58eb],
   .one 0x2f21 [0x5902], .one 0x2f22 [0x590a], .one 0x2f23 [0x5915], .one 0x2f24 [0x5927],
   .one 0x2f25 [0x5973], .one 0x2f26 [0x5b50], .one 0x2f27 [0x5b80], .one 0x2f28 [0x5bf8],
   .one 0x2f29 [0x5c0f], .one 0x2f2a [0x5c22], .one 0x2f2b [0x5c38], .one 0x2f2c [0x5c6e],
   .one 0x2f2d [0x5c71], .one 0x2f2e [0x5ddb], .one 0x2f2f [0x5de5], .one 0x2f30 [0x5df1],
   .one 0x2f31 [0x5dfe], .one 0x2f32 [0x5e72], .one 0x2f33 [0x5e7a], .one 0x2f34 [0x5e7f],
   .one 0x2f35 [0x5ef4], .one 0x2f36 [0x5efe], .one 0x2f37 [0x5f0b], .one 0x2f38 [0x5f13],
   .one 0x2f39 [0x5f50], .one 0x2f3a [0x5f61], .one 0x2f3b [0x5f73], .one 0x2f3c [0x5fc3],
   .one 0x2f3d [0x6208], .one 0x2f3e [0x6236], .one 0x2f3f [0x624b], .one 0x2f40 [0x652f],
   .one 0x2f41 [0x6534], .one 0x2f42 [0x6587], .one 0x2f43 [0x6597], .one 0x2f44 [0x65a4],
   .one 0x2f45 [0x65b9], .one 0x2f46 [0x65e0], .one 0x2f47 [0x65e5], .one 0x2f48 [0x66f0],
   .one 0x2f49 [0x6708], .one 0x2f4a [0x6728], .one 0x2f4b [0x6b20], .one 0x2f4c [0x6b62],
   .one 0x2f4d [0x6b79], .one 0x2f4e [0x6bb3], .one 0x2f4f [0x6bcb], .one 0x2f50 [0x6bd4],
   .one 0x2f51 [0x6bdb], .one 0x2f52 [0x6c0f], .one 0x2f53 [0x6c14], .one 0x2f54 [0x6c34],
   .one 0x2f55 [0x706b], .one 0x2f56 [0x722a], .one 0x2f57 [0x7236], .one 0x2f58 [0x723b],
   .one 0x2f59 [0x723f], .one 0x2f5a [0x7247], .one 0x2f5b [0x7259], .one 0x2f5c [0x725b],
   .one 0x2f5d [0x72ac], .one 0x2f5e [0x7384], .one 0x2f5f [0x7389], .one 0x2f60 [0x74dc],
   .one 0x2f61 [0x74e6], .one 0x2f62 [0x7518], .one 0x2f63 [0x751f], .one 0x2f64 [0x7528],
   .one 0x2f65 [0x7530], .one 0x2f66 [0x758b], .one 0x2f67 [0x7592], .one 0x2f68 [0x7676],
   .one 0x2f69 [0x767d], .one 0x2f6a [0x76ae], .one 0x2f6b [0x76bf], .one 0x2f6c [0x76ee],
   .one 0x2f6d [0x77db], .one 0x2f6e [0x77e2], .one 0x2f6f [0x77f3], .one 0x2f70 [0x793a],
   .one 0x2f71 [0x79b8], .one 0x2f72 [0x79be], .one 0x2f73 [0x7a74], .one 0x2f74 [0x7acb],
   .one 0x2f75 [0x7af9], .one 0x2f76 [0x7c73], .one 0x2f77 [0x7cf8], .one 0x2f78 [0x7f36],
   .one 0x2f79 [0x7f51], .one 0x2f7a [0x7f8a], .one 0x2f7b [0x7fbd], .one 0x2f7c [0x8001],
   .one 0x2f7d [0x800c], .one 0x2f7e [0x8012], .one 0x2f7f [0x8033], .one 0x2f80 [0x807f],
   .one 0x2f81 [0x8089], .one 0x2f82 [0x81e3], .one 0x2f83 [0x81ea], .one 0x2f84 [0x81f3],
   .one 0x2f85 [0x81fc], .one 0x2f86 [0x820c], .one 0x2f87 [0x821b], .one 0x2f88 [0x821f],
   .one 0x2f89 [0x826e], .one 0x2f8a [0x8272], .one 0x2f8b [0x8278], .one 0x2f8c [0x864d],
   .one 0x2f8d [0x866b], .one 0x2f8e [0x8840], .one 0x2f8f [0x884c], .one 0x2f90 [0x8863],
   .one 0x2f91 [0x897e], .one 0x2f92 [0x898b], .one 0x2f93 [0x89d2], .one 0x2f94 [0x8a00],
   .one 0x2f95 [0x8c37], .one 0x2f96 [0x8c46], .one 0x2f97 [0x8c55], .one 0x2f98 [0x8c78],
   .one 0x2f99 [0x8c9d], .one 0x2f9a [0x8d64], .one 0x2f9b [0x8d70], .one 0x2f9c [0x8db3],
   .one 0x2f9d [0x8eab], .one 0x2f9e [0x8eca], .one 0x2f9f [0x8f9b], .one 0x2fa0 [0x8fb0],
   .one 0x2fa1 [0x8fb5], .one 0x2fa2 [0x9091], .one 0x2fa3 [0x9149], .one 0x2fa4 [0x91c6],
   .one 0x2fa5 [0x91cc], .one 0x2fa6 [0x91d1], .one 0x2fa7 [0x9577], .one 0x2fa8 [0x9580],
   .one 0x2fa9 [0x961c], .one 0x2faa [0x96b6], .one 0x2fab [0x96b9], .one 0x2fac [0x96e8],
   .one 0x2fad [0x9751], .one 0x2fae [0x975e], .one 0x2faf [0x9762], .one 0x2fb0 [0x9769],
   .one 0x2fb1 [0x97cb], .one 0x2fb2 [0x97ed], .one 0x2fb3 [0x97f3], .one 0x2fb4 [0x9801],
   .one 0x2fb5 [0x98a8], .one 0x2fb6 [0x98db], .one 0x2fb7 [0x98df], .one 0x2fb8 [0x9996],
   .one 0x2fb9 [0x9999], .one 0x2fba [0x99ac], .one 0x2fbb [0x9aa8], .one 0x2fbc [0x9ad8],
   .one 0x2fbd [0x9adf], .one 0x2fbe [0x9b25], .one 0x2fbf [0x9b2f], .one 0x2fc0 [0x9b32],
   .one 0x2fc1 [0x9b3c], .one 0x2fc2 [0x9b5a], .one 0x2fc3 [0x9ce5], .one 0x2fc4 [0x9e75],
   .one 0x2fc5 [0x9e7f], .one 0x2fc6 [0x9ea5], .one 0x2fc7 [0x9ebb], .one 0x2fc8 [0x9ec3],
   .one 0x2fc9 [0x9ecd], .one 0x2fca [0x9ed1], .one 0x2fcb [0x9ef9], .one 0x2fcc [0x9efd],
   .one 0x2fcd [0x9f0e], .one 0x2fce [0x9f13], .one 0x2fcf [0x9f20], .one 0x2fd0 [0x9f3b],
   .one 0x2fd1 [0x9f4a], .one 0x2fd2 [0x9f52], .one 0x2fd3 [0x9f8d], .one 0x2fd4 [0x9f9c],
   .one 0x2fd5 [0x9fa0]]

/-- Of what stands in a circle or a square. -/
def framed : List Row :=
  [.one 0x3000 [0x20], .one 0x3002 [0x2e], .one 0x3036 [0x3012], .one 0x3038 [0x5341],
   .each 0x3039 0x303a [0x5344], .one 0x309b [0x20, 0x3099], .one 0x309c [0x20, 0x309a],
   .one 0x309f [0x3088, 0x308a], .one 0x30ff [0x30b3, 0x30c8], .each 0x3131 0x3132 [0x1100],
   .other 0x3133 0x3135 [0x11aa], .one 0x3134 [0x1102], .one 0x3136 [0x11ad],
   .each 0x3137 0x3139 [0x1103], .each 0x313a 0x313f [0x11b0], .one 0x3140 [0x111a],
   .each 0x3141 0x3143 [0x1106], .one 0x3144 [0x1121], .each 0x3145 0x314e [0x1109],
   .each 0x314f 0x3163 [0x1161], .each 0x3165 0x3166 [0x1114], .each 0x3167 0x3168 [0x11c7],
   .one 0x3169 [0x11cc], .one 0x316a [0x11ce], .one 0x316b [0x11d3], .one 0x316c [0x11d7],
   .one 0x316d [0x11d9], .one 0x316e [0x111c], .one 0x316f [0x11dd], .one 0x3170 [0x11df],
   .each 0x3171 0x3172 [0x111d], .one 0x3173 [0x1120], .each 0x3174 0x3175 [0x1122],
   .one 0x3176 [0x1127], .one 0x3177 [0x1129], .each 0x3178 0x317c [0x112b], .one 0x317d [0x1132],
   .one 0x317e [0x1136], .one 0x317f [0x1140], .one 0x3180 [0x1147], .one 0x3181 [0x114c],
   .each 0x3182 0x3183 [0x11f1], .each 0x3184 0x3186 [0x1157], .each 0x3187 0x3188 [0x1184],
   .one 0x3189 [0x1188], .each 0x318a 0x318b [0x1191], .one 0x318c [0x1194], .one 0x318d [0x119e],
   .one 0x318e [0x11a1], .one 0x3192 [0x4e00], .one 0x3193 [0x4e8c], .one 0x3194 [0x4e09],
   .one 0x3195 [0x56db], .one 0x3196 [0x4e0a], .one 0x3197 [0x4e2d], .one 0x3198 [0x4e0b],
   .one 0x3199 [0x7532], .one 0x319a [0x4e59], .one 0x319b [0x4e19], .one 0x319c [0x4e01],
   .one 0x319d [0x5929], .one 0x319e [0x5730], .one 0x319f [0x4eba],
   .one 0x3200 [0x28, 0x1100, 0x29], .one 0x3201 [0x28, 0x1102, 0x29],
   .one 0x3202 [0x28, 0x1103, 0x29], .one 0x3203 [0x28, 0x1105, 0x29],
   .one 0x3204 [0x28, 0x1106, 0x29], .one 0x3205 [0x28, 0x1107, 0x29],
   .one 0x3206 [0x28, 0x1109, 0x29], .one 0x3207 [0x28, 0x110b, 0x29],
   .one 0x3208 [0x28, 0x110c, 0x29], .one 0x3209 [0x28, 0x110e, 0x29],
   .one 0x320a [0x28, 0x110f, 0x29], .one 0x320b [0x28, 0x1110, 0x29],
   .one 0x320c [0x28, 0x1111, 0x29], .one 0x320d [0x28, 0x1112, 0x29],
   .one 0x320e [0x28, 0xac00, 0x29], .one 0x320f [0x28, 0xb098, 0x29],
   .one 0x3210 [0x28, 0xb2e4, 0x29], .one 0x3211 [0x28, 0xb77c, 0x29],
   .one 0x3212 [0x28, 0xb9c8, 0x29], .one 0x3213 [0x28, 0xbc14, 0x29],
   .one 0x3214 [0x28, 0xc0ac, 0x29], .one 0x3215 [0x28, 0xc544, 0x29],
   .one 0x3216 [0x28, 0xc790, 0x29], .one 0x3217 [0x28, 0xcc28, 0x29],
   .one 0x3218 [0x28, 0xce74, 0x29], .one 0x3219 [0x28, 0xd0c0, 0x29],
   .one 0x321a [0x28, 0xd30c, 0x29], .one 0x321b [0x28, 0xd558, 0x29],
   .one 0x321c [0x28, 0xc8fc, 0x29], .one 0x321d [0x28, 0xc624, 0xc804, 0x29],
   .one 0x321e [0x28, 0xc624, 0xd6c4, 0x29], .one 0x3220 [0x28, 0x4e00, 0x29],
   .one 0x3221 [0x28, 0x4e8c, 0x29], .one 0x3222 [0x28, 0x4e09, 0x29],
   .one 0x3223 [0x28, 0x56db, 0x29], .one 0x3224 [0x28, 0x4e94, 0x29],
   .one 0x3225 [0x28, 0x516d, 0x29], .one 0x3226 [0x28, 0x4e03, 0x29],
   .one 0x3227 [0x28, 0x516b, 0x29], .one 0x3228 [0x28, 0x4e5d, 0x29],
   .one 0x3229 [0x28, 0x5341, 0x29], .one 0x322a [0x28, 0x6708, 0x29],
   .one 0x322b [0x28, 0x706b, 0x29], .one 0x322c [0x28, 0x6c34, 0x29],
   .one 0x322d [0x28, 0x6728, 0x29], .one 0x322e [0x28, 0x91d1, 0x29],
   .one 0x322f [0x28, 0x571f, 0x29], .one 0x3230 [0x28, 0x65e5, 0x29],
   .one 0x3231 [0x28, 0x682a, 0x29], .one 0x3232 [0x28, 0x6709, 0x29],
   .one 0x3233 [0x28, 0x793e, 0x29], .one 0x3234 [0x28, 0x540d, 0x29],
   .one 0x3235 [0x28, 0x7279, 0x29], .one 0x3236 [0x28, 0x8ca1, 0x29],
   .one 0x3237 [0x28, 0x795d, 0x29], .one 0x3238 [0x28, 0x52b4, 0x29],
   .one 0x3239 [0x28, 0x4ee3, 0x29], .one 0x323a [0x28, 0x547c, 0x29],
   .one 0x323b [0x28, 0x5b66, 0x29], .one 0x323c [0x28, 0x76e3, 0x29],
   .one 0x323d [0x28, 0x4f01, 0x29], .one 0x323e [0x28, 0x8cc7, 0x29],
   .one 0x323f [0x28, 0x5354, 0x29], .one 0x3240 [0x28, 0x796d, 0x29],
   .one 0x3241 [0x28, 0x4f11, 0x29], .one 0x3242 [0x28, 0x81ea, 0x29],
   .one 0x3243 [0x28, 0x81f3, 0x29], .one 0x3244 [0x554f], .one 0x3245 [0x5e7c],
   .one 0x3246 [0x6587], .one 0x3247 [0x7b8f], .one 0x3250 [0x70, 0x74, 0x65],
   .one 0x3251 [0x32, 0x31], .one 0x3252 [0x32, 0x32], .one 0x3253 [0x32, 0x33],
   .one 0x3254 [0x32, 0x34], .one 0x3255 [0x32, 0x35], .one 0x3256 [0x32, 0x36],
   .one 0x3257 [0x32, 0x37], .one 0x3258 [0x32, 0x38], .one 0x3259 [0x32, 0x39],
   .one 0x325a [0x33, 0x30], .one 0x325b [0x33, 0x31], .one 0x325c [0x33, 0x32],
   .one 0x325d [0x33, 0x33], .one 0x325e [0x33, 0x34], .one 0x325f [0x33, 0x35],
   .one 0x3260 [0x1100], .each 0x3261 0x3262 [0x1102], .each 0x3263 0x3265 [0x1105],
   .one 0x3266 [0x1109], .each 0x3267 0x3268 [0x110b], .each 0x3269 0x326d [0x110e],
   .one 0x326e [0xac00], .one 0x326f [0xb098], .one 0x3270 [0xb2e4], .one 0x3271 [0xb77c],
   .one 0x3272 [0xb9c8], .one 0x3273 [0xbc14], .one 0x3274 [0xc0ac], .one 0x3275 [0xc544],
   .one 0x3276 [0xc790], .one 0x3277 [0xcc28], .one 0x3278 [0xce74], .one 0x3279 [0xd0c0],
   .one 0x327a [0xd30c], .one 0x327b [0xd558], .one 0x327c [0xcc38, 0xace0],
   .one 0x327d [0xc8fc, 0xc758], .one 0x327e [0xc6b0], .one 0x3280 [0x4e00], .one 0x3281 [0x4e8c],
   .one 0x3282 [0x4e09], .one 0x3283 [0x56db], .one 0x3284 [0x4e94], .one 0x3285 [0x516d],
   .one 0x3286 [0x4e03], .one 0x3287 [0x516b], .one 0x3288 [0x4e5d], .one 0x3289 [0x5341],
   .one 0x328a [0x6708], .one 0x328b [0x706b], .one 0x328c [0x6c34], .one 0x328d [0x6728],
   .one 0x328e [0x91d1], .one 0x328f [0x571f], .one 0x3290 [0x65e5], .one 0x3291 [0x682a],
   .one 0x3292 [0x6709], .one 0x3293 [0x793e], .one 0x3294 [0x540d], .one 0x3295 [0x7279],
   .one 0x3296 [0x8ca1], .one 0x3297 [0x795d], .one 0x3298 [0x52b4], .one 0x3299 [0x79d8],
   .one 0x329a [0x7537], .one 0x329b [0x5973], .one 0x329c [0x9069], .one 0x329d [0x512a],
   .one 0x329e [0x5370], .one 0x329f [0x6ce8], .one 0x32a0 [0x9805], .one 0x32a1 [0x4f11],
   .one 0x32a2 [0x5199], .one 0x32a3 [0x6b63], .one 0x32a4 [0x4e0a], .one 0x32a5 [0x4e2d],
   .one 0x32a6 [0x4e0b], .one 0x32a7 [0x5de6], .one 0x32a8 [0x53f3], .one 0x32a9 [0x533b],
   .one 0x32aa [0x5b97], .one 0x32ab [0x5b66], .one 0x32ac [0x76e3], .one 0x32ad [0x4f01],
   .one 0x32ae [0x8cc7], .one 0x32af [0x5354], .one 0x32b0 [0x591c], .one 0x32b1 [0x33, 0x36],
   .one 0x32b2 [0x33, 0x37], .one 0x32b3 [0x33, 0x38], .one 0x32b4 [0x33, 0x39],
   .one 0x32b5 [0x34, 0x30], .one 0x32b6 [0x34, 0x31], .one 0x32b7 [0x34, 0x32],
   .one 0x32b8 [0x34, 0x33], .one 0x32b9 [0x34, 0x34], .one 0x32ba [0x34, 0x35],
   .one 0x32bb [0x34, 0x36], .one 0x32bc [0x34, 0x37], .one 0x32bd [0x34, 0x38],
   .one 0x32be [0x34, 0x39], .one 0x32bf [0x35, 0x30], .one 0x32c0 [0x31, 0x6708],
   .one 0x32c1 [0x32, 0x6708], .one 0x32c2 [0x33, 0x6708], .one 0x32c3 [0x34, 0x6708],
   .one 0x32c4 [0x35, 0x6708], .one 0x32c5 [0x36, 0x6708], .one 0x32c6 [0x37, 0x6708],
   .one 0x32c7 [0x38, 0x6708], .one 0x32c8 [0x39, 0x6708], .one 0x32c9 [0x31, 0x30, 0x6708],
   .one 0x32ca [0x31, 0x31, 0x6708], .one 0x32cb [0x31, 0x32, 0x6708], .one 0x32cc [0x68, 0x67],
   .one 0x32cd [0x65, 0x72, 0x67], .one 0x32ce [0x65, 0x76], .one 0x32cf [0x6c, 0x74, 0x64],
   .one 0x32d0 [0x30a2], .one 0x32d1 [0x30a4], .one 0x32d2 [0x30a6], .one 0x32d3 [0x30a8],
   .each 0x32d4 0x32d5 [0x30aa], .one 0x32d6 [0x30ad], .one 0x32d7 [0x30af], .one 0x32d8 [0x30b1],
   .one 0x32d9 [0x30b3], .one 0x32da [0x30b5], .one 0x32db [0x30b7], .one 0x32dc [0x30b9],
   .one 0x32dd [0x30bb], .one 0x32de [0x30bd], .one 0x32df [0x30bf], .one 0x32e0 [0x30c1],
   .one 0x32e1 [0x30c4], .one 0x32e2 [0x30c6], .one 0x32e3 [0x30c8], .each 0x32e4 0x32e9 [0x30ca],
   .one 0x32ea [0x30d2], .one 0x32eb [0x30d5], .one 0x32ec [0x30d8], .one 0x32ed [0x30db],
   .each 0x32ee 0x32f2 [0x30de], .one 0x32f3 [0x30e4], .one 0x32f4 [0x30e6],
   .each 0x32f5 0x32fa [0x30e8], .each 0x32fb 0x32fe [0x30ef], .one 0x32ff [0x4ee4, 0x548c],
   .one 0x3300 [0x30a2, 0x30d1, 0x30fc, 0x30c8], .one 0x3301 [0x30a2, 0x30eb, 0x30d5, 0x30a1],
   .one 0x3302 [0x30a2, 0x30f3, 0x30da, 0x30a2], .one 0x3303 [0x30a2, 0x30fc, 0x30eb],
   .one 0x3304 [0x30a4, 0x30cb, 0x30f3, 0x30b0], .one 0x3305 [0x30a4, 0x30f3, 0x30c1],
   .one 0x3306 [0x30a6, 0x30a9, 0x30f3], .one 0x3307 [0x30a8, 0x30b9, 0x30af, 0x30fc, 0x30c9],
   .one 0x3308 [0x30a8, 0x30fc, 0x30ab, 0x30fc], .one 0x3309 [0x30aa, 0x30f3, 0x30b9],
   .one 0x330a [0x30aa, 0x30fc, 0x30e0], .one 0x330b [0x30ab, 0x30a4, 0x30ea],
   .one 0x330c [0x30ab, 0x30e9, 0x30c3, 0x30c8], .one 0x330d [0x30ab, 0x30ed, 0x30ea, 0x30fc],
   .one 0x330e [0x30ac, 0x30ed, 0x30f3], .one 0x330f [0x30ac, 0x30f3, 0x30de],
   .one 0x3310 [0x30ae, 0x30ac], .one 0x3311 [0x30ae, 0x30cb, 0x30fc],
   .one 0x3312 [0x30ad, 0x30e5, 0x30ea, 0x30fc], .one 0x3313 [0x30ae, 0x30eb, 0x30c0, 0x30fc],
   .one 0x3314 [0x30ad, 0x30ed], .one 0x3315 [0x30ad, 0x30ed, 0x30b0, 0x30e9, 0x30e0],
   .one 0x3316 [0x30ad, 0x30ed, 0x30e1, 0x30fc, 0x30c8, 0x30eb],
   .one 0x3317 [0x30ad, 0x30ed, 0x30ef, 0x30c3, 0x30c8], .one 0x3318 [0x30b0, 0x30e9, 0x30e0],
   .one 0x3319 [0x30b0, 0x30e9, 0x30e0, 0x30c8, 0x30f3],
   .one 0x331a [0x30af, 0x30eb, 0x30bc, 0x30a4, 0x30ed],
   .one 0x331b [0x30af, 0x30ed, 0x30fc, 0x30cd], .one 0x331c [0x30b1, 0x30fc, 0x30b9],
   .one 0x331d [0x30b3, 0x30eb, 0x30ca], .one 0x331e [0x30b3, 0x30fc, 0x30dd],
   .one 0x331f [0x30b5, 0x30a4, 0x30af, 0x30eb],
   .one 0x3320 [0x30b5, 0x30f3, 0x30c1, 0x30fc, 0x30e0],
   .one 0x3321 [0x30b7, 0x30ea, 0x30f3, 0x30b0], .one 0x3322 [0x30bb, 0x30f3, 0x30c1],
   .one 0x3323 [0x30bb, 0x30f3, 0x30c8], .one 0x3324 [0x30c0, 0x30fc, 0x30b9],
   .one 0x3325 [0x30c7, 0x30b7], .one 0x3326 [0x30c9, 0x30eb], .one 0x3327 [0x30c8, 0x30f3],
   .one 0x3328 [0x30ca, 0x30ce], .one 0x3329 [0x30ce, 0x30c3, 0x30c8],
   .one 0x332a [0x30cf, 0x30a4, 0x30c4], .one 0x332b [0x30d1, 0x30fc, 0x30bb, 0x30f3, 0x30c8],
   .one 0x332c [0x30d1, 0x30fc, 0x30c4], .one 0x332d [0x30d0, 0x30fc, 0x30ec, 0x30eb],
   .one 0x332e [0x30d4, 0x30a2, 0x30b9, 0x30c8, 0x30eb], .one 0x332f [0x30d4, 0x30af, 0x30eb],
   .one 0x3330 [0x30d4, 0x30b3], .one 0x3331 [0x30d3, 0x30eb],
   .one 0x3332 [0x30d5, 0x30a1, 0x30e9, 0x30c3, 0x30c9],
   .one 0x3333 [0x30d5, 0x30a3, 0x30fc, 0x30c8],
   .one 0x3334 [0x30d6, 0x30c3, 0x30b7, 0x30a7, 0x30eb], .one 0x3335 [0x30d5, 0x30e9, 0x30f3],
   .one 0x3336 [0x30d8, 0x30af, 0x30bf, 0x30fc, 0x30eb], .one 0x3337 [0x30da, 0x30bd],
   .one 0x3338 [0x30da, 0x30cb, 0x30d2], .one 0x3339 [0x30d8, 0x30eb, 0x30c4],
   .one 0x333a [0x30da, 0x30f3, 0x30b9], .one 0x333b [0x30da, 0x30fc, 0x30b8],
   .one 0x333c [0x30d9, 0x30fc, 0x30bf], .one 0x333d [0x30dd, 0x30a4, 0x30f3, 0x30c8],
   .one 0x333e [0x30dc, 0x30eb, 0x30c8], .one 0x333f [0x30db, 0x30f3],
   .one 0x3340 [0x30dd, 0x30f3, 0x30c9], .one 0x3341 [0x30db, 0x30fc, 0x30eb],
   .one 0x3342 [0x30db, 0x30fc, 0x30f3], .one 0x3343 [0x30de, 0x30a4, 0x30af, 0x30ed],
   .one 0x3344 [0x30de, 0x30a4, 0x30eb], .one 0x3345 [0x30de, 0x30c3, 0x30cf],
   .one 0x3346 [0x30de, 0x30eb, 0x30af], .one 0x3347 [0x30de, 0x30f3, 0x30b7, 0x30e7, 0x30f3],
   .one 0x3348 [0x30df, 0x30af, 0x30ed, 0x30f3], .one 0x3349 [0x30df, 0x30ea],
   .one 0x334a [0x30df, 0x30ea, 0x30d0, 0x30fc, 0x30eb], .one 0x334b [0x30e1, 0x30ac],
   .one 0x334c [0x30e1, 0x30ac, 0x30c8, 0x30f3], .one 0x334d [0x30e1, 0x30fc, 0x30c8, 0x30eb],
   .one 0x334e [0x30e4, 0x30fc, 0x30c9], .one 0x334f [0x30e4, 0x30fc, 0x30eb],
   .one 0x3350 [0x30e6, 0x30a2, 0x30f3], .one 0x3351 [0x30ea, 0x30c3, 0x30c8, 0x30eb],
   .one 0x3352 [0x30ea, 0x30e9], .one 0x3353 [0x30eb, 0x30d4, 0x30fc],
   .one 0x3354 [0x30eb, 0x30fc, 0x30d6, 0x30eb], .one 0x3355 [0x30ec, 0x30e0],
   .one 0x3356 [0x30ec, 0x30f3, 0x30c8, 0x30b2, 0x30f3], .one 0x3357 [0x30ef, 0x30c3, 0x30c8],
   .one 0x3358 [0x30, 0x70b9], .one 0x3359 [0x31, 0x70b9], .one 0x335a [0x32, 0x70b9],
   .one 0x335b [0x33, 0x70b9], .one 0x335c [0x34, 0x70b9], .one 0x335d [0x35, 0x70b9],
   .one 0x335e [0x36, 0x70b9], .one 0x335f [0x37, 0x70b9], .one 0x3360 [0x38, 0x70b9],
   .one 0x3361 [0x39, 0x70b9], .one 0x3362 [0x31, 0x30, 0x70b9], .one 0x3363 [0x31, 0x31, 0x70b9],
   .one 0x3364 [0x31, 0x32, 0x70b9], .one 0x3365 [0x31, 0x33, 0x70b9],
   .one 0x3366 [0x31, 0x34, 0x70b9], .one 0x3367 [0x31, 0x35, 0x70b9],
   .one 0x3368 [0x31, 0x36, 0x70b9], .one 0x3369 [0x31, 0x37, 0x70b9],
   .one 0x336a [0x31, 0x38, 0x70b9], .one 0x336b [0x31, 0x39, 0x70b9],
   .one 0x336c [0x32, 0x30, 0x70b9], .one 0x336d [0x32, 0x31, 0x70b9],
   .one 0x336e [0x32, 0x32, 0x70b9], .one 0x336f [0x32, 0x33, 0x70b9],
   .one 0x3370 [0x32, 0x34, 0x70b9], .one 0x3371 [0x68, 0x70, 0x61], .one 0x3372 [0x64, 0x61],
   .one 0x3373 [0x61, 0x75], .one 0x3374 [0x62, 0x61, 0x72], .one 0x3375 [0x6f, 0x76],
   .one 0x3376 [0x70, 0x63], .one 0x3377 [0x64, 0x6d], .one 0x3378 [0x64, 0x6d, 0x32],
   .one 0x3379 [0x64, 0x6d, 0x33], .one 0x337a [0x69, 0x75], .one 0x337b [0x5e73, 0x6210],
   .one 0x337c [0x662d, 0x548c], .one 0x337d [0x5927, 0x6b63], .one 0x337e [0x660e, 0x6cbb],
   .one 0x337f [0x682a, 0x5f0f, 0x4f1a, 0x793e], .one 0x3380 [0x70, 0x61], .one 0x3381 [0x6e, 0x61],
   .one 0x3382 [0x3bc, 0x61], .one 0x3383 [0x6d, 0x61], .one 0x3384 [0x6b, 0x61],
   .one 0x3385 [0x6b, 0x62], .one 0x3386 [0x6d, 0x62], .one 0x3387 [0x67, 0x62],
   .one 0x3388 [0x63, 0x61, 0x6c], .one 0x3389 [0x6b, 0x63, 0x61, 0x6c], .one 0x338a [0x70, 0x66],
   .one 0x338b [0x6e, 0x66], .one 0x338c [0x3bc, 0x66], .one 0x338d [0x3bc, 0x67],
   .one 0x338e [0x6d, 0x67], .one 0x338f [0x6b, 0x67], .one 0x3390 [0x68, 0x7a],
   .one 0x3391 [0x6b, 0x68, 0x7a], .one 0x3392 [0x6d, 0x68, 0x7a], .one 0x3393 [0x67, 0x68, 0x7a],
   .one 0x3394 [0x74, 0x68, 0x7a], .one 0x3395 [0x3bc, 0x6c], .one 0x3396 [0x6d, 0x6c],
   .one 0x3397 [0x64, 0x6c], .one 0x3398 [0x6b, 0x6c], .one 0x3399 [0x66, 0x6d],
   .one 0x339a [0x6e, 0x6d], .one 0x339b [0x3bc, 0x6d], .one 0x339c [0x6d, 0x6d],
   .one 0x339d [0x63, 0x6d], .one 0x339e [0x6b, 0x6d], .one 0x339f [0x6d, 0x6d, 0x32],
   .one 0x33a0 [0x63, 0x6d, 0x32], .one 0x33a1 [0x6d, 0x32], .one 0x33a2 [0x6b, 0x6d, 0x32],
   .one 0x33a3 [0x6d, 0x6d, 0x33], .one 0x33a4 [0x63, 0x6d, 0x33], .one 0x33a5 [0x6d, 0x33],
   .one 0x33a6 [0x6b, 0x6d, 0x33], .one 0x33a7 [0x6d, 0x2215, 0x73],
   .one 0x33a8 [0x6d, 0x2215, 0x73, 0x32], .one 0x33a9 [0x70, 0x61], .one 0x33aa [0x6b, 0x70, 0x61],
   .one 0x33ab [0x6d, 0x70, 0x61], .one 0x33ac [0x67, 0x70, 0x61], .one 0x33ad [0x72, 0x61, 0x64],
   .one 0x33ae [0x72, 0x61, 0x64, 0x2215, 0x73], .one 0x33af [0x72, 0x61, 0x64, 0x2215, 0x73, 0x32],
   .one 0x33b0 [0x70, 0x73], .one 0x33b1 [0x6e, 0x73], .one 0x33b2 [0x3bc, 0x73],
   .one 0x33b3 [0x6d, 0x73], .one 0x33b4 [0x70, 0x76], .one 0x33b5 [0x6e, 0x76],
   .one 0x33b6 [0x3bc, 0x76], .one 0x33b7 [0x6d, 0x76], .one 0x33b8 [0x6b, 0x76],
   .one 0x33b9 [0x6d, 0x76], .one 0x33ba [0x70, 0x77], .one 0x33bb [0x6e, 0x77],
   .one 0x33bc [0x3bc, 0x77], .one 0x33bd [0x6d, 0x77], .one 0x33be [0x6b, 0x77],
   .one 0x33bf [0x6d, 0x77], .one 0x33c0 [0x6b, 0x3c9], .one 0x33c1 [0x6d, 0x3c9],
   .one 0x33c3 [0x62, 0x71], .one 0x33c4 [0x63, 0x63], .one 0x33c5 [0x63, 0x64],
   .one 0x33c6 [0x63, 0x2215, 0x6b, 0x67], .one 0x33c8 [0x64, 0x62], .one 0x33c9 [0x67, 0x79],
   .one 0x33ca [0x68, 0x61], .one 0x33cb [0x68, 0x70], .one 0x33cc [0x69, 0x6e],
   .one 0x33cd [0x6b, 0x6b], .one 0x33ce [0x6b, 0x6d], .one 0x33cf [0x6b, 0x74],
   .one 0x33d0 [0x6c, 0x6d], .one 0x33d1 [0x6c, 0x6e], .one 0x33d2 [0x6c, 0x6f, 0x67],
   .one 0x33d3 [0x6c, 0x78], .one 0x33d4 [0x6d, 0x62], .one 0x33d5 [0x6d, 0x69, 0x6c],
   .one 0x33d6 [0x6d, 0x6f, 0x6c], .one 0x33d7 [0x70, 0x68], .one 0x33d9 [0x70, 0x70, 0x6d],
   .one 0x33da [0x70, 0x72], .one 0x33db [0x73, 0x72], .one 0x33dc [0x73, 0x76],
   .one 0x33dd [0x77, 0x62], .one 0x33de [0x76, 0x2215, 0x6d], .one 0x33df [0x61, 0x2215, 0x6d],
   .one 0x33e0 [0x31, 0x65e5], .one 0x33e1 [0x32, 0x65e5], .one 0x33e2 [0x33, 0x65e5],
   .one 0x33e3 [0x34, 0x65e5], .one 0x33e4 [0x35, 0x65e5], .one 0x33e5 [0x36, 0x65e5],
   .one 0x33e6 [0x37, 0x65e5], .one 0x33e7 [0x38, 0x65e5], .one 0x33e8 [0x39, 0x65e5],
   .one 0x33e9 [0x31, 0x30, 0x65e5], .one 0x33ea [0x31, 0x31, 0x65e5],
   .one 0x33eb [0x31, 0x32, 0x65e5], .one 0x33ec [0x31, 0x33, 0x65e5],
   .one 0x33ed [0x31, 0x34, 0x65e5], .one 0x33ee [0x31, 0x35, 0x65e5],
   .one 0x33ef [0x31, 0x36, 0x65e5], .one 0x33f0 [0x31, 0x37, 0x65e5],
   .one 0x33f1 [0x31, 0x38, 0x65e5], .one 0x33f2 [0x31, 0x39, 0x65e5],
   .one 0x33f3 [0x32, 0x30, 0x65e5], .one 0x33f4 [0x32, 0x31, 0x65e5],
   .one 0x33f5 [0x32, 0x32, 0x65e5], .one 0x33f6 [0x32, 0x33, 0x65e5],
   .one 0x33f7 [0x32, 0x34, 0x65e5], .one 0x33f8 [0x32, 0x35, 0x65e5],
   .one 0x33f9 [0x32, 0x36, 0x65e5], .one 0x33fa [0x32, 0x37, 0x65e5],
   .one 0x33fb [0x32, 0x38, 0x65e5], .one 0x33fc [0x32, 0x39, 0x65e5],
   .one 0x33fd [0x33, 0x30, 0x65e5], .one 0x33fe [0x33, 0x31, 0x65e5],
   .one 0x33ff [0x67, 0x61, 0x6c]]

/-- Of ideographs that are there twice. -/
def doubles : List Row :=
  [.other 0xa640 0xa66c [0xa641], .other 0xa680 0xa69a [0xa681], .one 0xa69c [0x44a],
   .one 0xa69d [0x44c], .other 0xa722 0xa72e [0xa723], .other 0xa732 0xa76e [0xa733],
   .one 0xa770 [0xa76f], .other 0xa779 0xa77b [0xa77a], .one 0xa77d [0x1d79],
   .other 0xa77e 0xa786 [0xa77f], .one 0xa78b [0xa78c], .one 0xa78d [0x265],
   .other 0xa790 0xa792 [0xa791], .other 0xa796 0xa7a8 [0xa797], .one 0xa7aa [0x266],
   .one 0xa7ab [0x25c], .one 0xa7ac [0x261], .one 0xa7ad [0x26c], .one 0xa7ae [0x26a],
   .one 0xa7b0 [0x29e], .one 0xa7b1 [0x287], .one 0xa7b2 [0x29d], .one 0xa7b3 [0xab53],
   .other 0xa7b4 0xa7c2 [0xa7b5], .one 0xa7c4 [0xa794], .one 0xa7c5 [0x282], .one 0xa7c6 [0x1d8e],
   .other 0xa7c7 0xa7c9 [0xa7c8], .one 0xa7cb [0x264], .other 0xa7cc 0xa7da [0xa7cd],
   .one 0xa7dc [0x19b], .one 0xa7f1 [0x73], .one 0xa7f2 [0x63], .one 0xa7f3 [0x66],
   .one 0xa7f4 [0x71], .one 0xa7f5 [0xa7f6], .one 0xa7f8 [0x127], .one 0xa7f9 [0x153],
   .one 0xab5c [0xa727], .one 0xab5d [0xab37], .one 0xab5e [0x26b], .one 0xab5f [0xab52],
   .one 0xab69 [0x28d], .each 0xab70 0xabbf [0x13a0], .one 0xf900 [0x8c48], .one 0xf901 [0x66f4],
   .one 0xf902 [0x8eca], .one 0xf903 [0x8cc8], .one 0xf904 [0x6ed1], .one 0xf905 [0x4e32],
   .one 0xf906 [0x53e5], .same 0xf907 0xf908 [0x9f9c], .one 0xf909 [0x5951], .one 0xf90a [0x91d1],
   .one 0xf90b [0x5587], .one 0xf90c [0x5948], .one 0xf90d [0x61f6], .one 0xf90e [0x7669],
   .one 0xf90f [0x7f85], .one 0xf910 [0x863f], .one 0xf911 [0x87ba], .one 0xf912 [0x88f8],
   .one 0xf913 [0x908f], .one 0xf914 [0x6a02], .one 0xf915 [0x6d1b], .one 0xf916 [0x70d9],
   .one 0xf917 [0x73de], .one 0xf918 [0x843d], .one 0xf919 [0x916a], .one 0xf91a [0x99f1],
   .one 0xf91b [0x4e82], .one 0xf91c [0x5375], .one 0xf91d [0x6b04], .one 0xf91e [0x721b],
   .one 0xf91f [0x862d], .one 0xf920 [0x9e1e], .one 0xf921 [0x5d50], .one 0xf922 [0x6feb],
   .one 0xf923 [0x85cd], .one 0xf924 [0x8964], .one 0xf925 [0x62c9], .one 0xf926 [0x81d8],
   .one 0xf927 [0x881f], .one 0xf928 [0x5eca], .one 0xf929 [0x6717], .one 0xf92a [0x6d6a],
   .one 0xf92b [0x72fc], .one 0xf92c [0x90ce], .one 0xf92d [0x4f86], .one 0xf92e [0x51b7],
   .one 0xf92f [0x52de], .one 0xf930 [0x64c4], .one 0xf931 [0x6ad3], .one 0xf932 [0x7210],
   .one 0xf933 [0x76e7], .one 0xf934 [0x8001], .one 0xf935 [0x8606], .one 0xf936 [0x865c],
   .one 0xf937 [0x8def], .one 0xf938 [0x9732], .one 0xf939 [0x9b6f], .one 0xf93a [0x9dfa],
   .one 0xf93b [0x788c], .one 0xf93c [0x797f], .one 0xf93d [0x7da0], .one 0xf93e [0x83c9],
   .one 0xf93f [0x9304], .one 0xf940 [0x9e7f], .one 0xf941 [0x8ad6], .one 0xf942 [0x58df],
   .one 0xf943 [0x5f04], .one 0xf944 [0x7c60], .one 0xf945 [0x807e], .one 0xf946 [0x7262],
   .one 0xf947 [0x78ca], .one 0xf948 [0x8cc2], .one 0xf949 [0x96f7], .one 0xf94a [0x58d8],
   .one 0xf94b [0x5c62], .one 0xf94c [0x6a13], .one 0xf94d [0x6dda], .one 0xf94e [0x6f0f],
   .one 0xf94f [0x7d2f], .one 0xf950 [0x7e37], .one 0xf951 [0x964b], .one 0xf952 [0x52d2],
   .one 0xf953 [0x808b], .one 0xf954 [0x51dc], .one 0xf955 [0x51cc], .one 0xf956 [0x7a1c],
   .one 0xf957 [0x7dbe], .one 0xf958 [0x83f1], .one 0xf959 [0x9675], .one 0xf95a [0x8b80],
   .one 0xf95b [0x62cf], .one 0xf95c [0x6a02], .one 0xf95d [0x8afe], .one 0xf95e [0x4e39],
   .one 0xf95f [0x5be7], .one 0xf960 [0x6012], .one 0xf961 [0x7387], .one 0xf962 [0x7570],
   .one 0xf963 [0x5317], .one 0xf964 [0x78fb], .one 0xf965 [0x4fbf], .one 0xf966 [0x5fa9],
   .one 0xf967 [0x4e0d], .one 0xf968 [0x6ccc], .one 0xf969 [0x6578], .one 0xf96a [0x7d22],
   .one 0xf96b [0x53c3], .one 0xf96c [0x585e], .one 0xf96d [0x7701], .one 0xf96e [0x8449],
   .one 0xf96f [0x8aaa], .one 0xf970 [0x6bba], .one 0xf971 [0x8fb0], .one 0xf972 [0x6c88],
   .one 0xf973 [0x62fe], .one 0xf974 [0x82e5], .one 0xf975 [0x63a0], .one 0xf976 [0x7565],
   .one 0xf977 [0x4eae], .one 0xf978 [0x5169], .one 0xf979 [0x51c9], .one 0xf97a [0x6881],
   .one 0xf97b [0x7ce7], .one 0xf97c [0x826f], .one 0xf97d [0x8ad2], .one 0xf97e [0x91cf],
   .one 0xf97f [0x52f5], .one 0xf980 [0x5442], .one 0xf981 [0x5973], .one 0xf982 [0x5eec],
   .one 0xf983 [0x65c5], .one 0xf984 [0x6ffe], .one 0xf985 [0x792a], .one 0xf986 [0x95ad],
   .one 0xf987 [0x9a6a], .one 0xf988 [0x9e97], .one 0xf989 [0x9ece], .one 0xf98a [0x529b],
   .one 0xf98b [0x66c6], .one 0xf98c [0x6b77], .one 0xf98d [0x8f62], .one 0xf98e [0x5e74],
   .one 0xf98f [0x6190], .one 0xf990 [0x6200], .one 0xf991 [0x649a], .one 0xf992 [0x6f23],
   .one 0xf993 [0x7149], .one 0xf994 [0x7489], .one 0xf995 [0x79ca], .one 0xf996 [0x7df4],
   .one 0xf997 [0x806f], .one 0xf998 [0x8f26], .one 0xf999 [0x84ee], .one 0xf99a [0x9023],
   .one 0xf99b [0x934a], .one 0xf99c [0x5217], .one 0xf99d [0x52a3], .one 0xf99e [0x54bd],
   .one 0xf99f [0x70c8], .one 0xf9a0 [0x88c2], .one 0xf9a1 [0x8aaa], .one 0xf9a2 [0x5ec9],
   .one 0xf9a3 [0x5ff5], .one 0xf9a4 [0x637b], .one 0xf9a5 [0x6bae], .one 0xf9a6 [0x7c3e],
   .one 0xf9a7 [0x7375], .one 0xf9a8 [0x4ee4], .one 0xf9a9 [0x56f9], .one 0xf9aa [0x5be7],
   .one 0xf9ab [0x5dba], .one 0xf9ac [0x601c], .one 0xf9ad [0x73b2], .one 0xf9ae [0x7469],
   .one 0xf9af [0x7f9a], .one 0xf9b0 [0x8046], .one 0xf9b1 [0x9234], .one 0xf9b2 [0x96f6],
   .one 0xf9b3 [0x9748], .one 0xf9b4 [0x9818], .one 0xf9b5 [0x4f8b], .one 0xf9b6 [0x79ae],
   .one 0xf9b7 [0x91b4], .one 0xf9b8 [0x96b8], .one 0xf9b9 [0x60e1], .one 0xf9ba [0x4e86],
   .one 0xf9bb [0x50da], .one 0xf9bc [0x5bee], .one 0xf9bd [0x5c3f], .one 0xf9be [0x6599],
   .one 0xf9bf [0x6a02], .one 0xf9c0 [0x71ce], .one 0xf9c1 [0x7642], .one 0xf9c2 [0x84fc],
   .one 0xf9c3 [0x907c], .one 0xf9c4 [0x9f8d], .one 0xf9c5 [0x6688], .one 0xf9c6 [0x962e],
   .one 0xf9c7 [0x5289], .one 0xf9c8 [0x677b], .one 0xf9c9 [0x67f3], .one 0xf9ca [0x6d41],
   .one 0xf9cb [0x6e9c], .one 0xf9cc [0x7409], .one 0xf9cd [0x7559], .one 0xf9ce [0x786b],
   .one 0xf9cf [0x7d10], .one 0xf9d0 [0x985e], .one 0xf9d1 [0x516d], .one 0xf9d2 [0x622e],
   .one 0xf9d3 [0x9678], .one 0xf9d4 [0x502b], .one 0xf9d5 [0x5d19], .one 0xf9d6 [0x6dea],
   .one 0xf9d7 [0x8f2a], .one 0xf9d8 [0x5f8b], .one 0xf9d9 [0x6144], .one 0xf9da [0x6817],
   .one 0xf9db [0x7387], .one 0xf9dc [0x9686], .one 0xf9dd [0x5229], .one 0xf9de [0x540f],
   .one 0xf9df [0x5c65], .one 0xf9e0 [0x6613], .one 0xf9e1 [0x674e], .one 0xf9e2 [0x68a8],
   .one 0xf9e3 [0x6ce5], .one 0xf9e4 [0x7406], .one 0xf9e5 [0x75e2], .one 0xf9e6 [0x7f79],
   .one 0xf9e7 [0x88cf], .one 0xf9e8 [0x88e1], .one 0xf9e9 [0x91cc], .one 0xf9ea [0x96e2],
   .one 0xf9eb [0x533f], .one 0xf9ec [0x6eba], .one 0xf9ed [0x541d], .one 0xf9ee [0x71d0],
   .one 0xf9ef [0x7498], .one 0xf9f0 [0x85fa], .one 0xf9f1 [0x96a3], .one 0xf9f2 [0x9c57],
   .one 0xf9f3 [0x9e9f], .one 0xf9f4 [0x6797], .one 0xf9f5 [0x6dcb], .one 0xf9f6 [0x81e8],
   .one 0xf9f7 [0x7acb], .one 0xf9f8 [0x7b20], .one 0xf9f9 [0x7c92], .one 0xf9fa [0x72c0],
   .one 0xf9fb [0x7099], .one 0xf9fc [0x8b58], .one 0xf9fd [0x4ec0], .one 0xf9fe [0x8336],
   .one 0xf9ff [0x523a], .one 0xfa00 [0x5207], .one 0xfa01 [0x5ea6], .one 0xfa02 [0x62d3],
   .one 0xfa03 [0x7cd6], .one 0xfa04 [0x5b85], .one 0xfa05 [0x6d1e], .one 0xfa06 [0x66b4],
   .one 0xfa07 [0x8f3b], .one 0xfa08 [0x884c], .one 0xfa09 [0x964d], .one 0xfa0a [0x898b],
   .one 0xfa0b [0x5ed3], .one 0xfa0c [0x5140], .one 0xfa0d [0x55c0], .one 0xfa10 [0x585a],
   .one 0xfa12 [0x6674], .one 0xfa15 [0x51de], .one 0xfa16 [0x732a], .one 0xfa17 [0x76ca],
   .one 0xfa18 [0x793c], .one 0xfa19 [0x795e], .one 0xfa1a [0x7965], .one 0xfa1b [0x798f],
   .one 0xfa1c [0x9756], .one 0xfa1d [0x7cbe], .one 0xfa1e [0x7fbd], .one 0xfa20 [0x8612],
   .one 0xfa22 [0x8af8], .one 0xfa25 [0x9038], .one 0xfa26 [0x90fd], .one 0xfa2a [0x98ef],
   .one 0xfa2b [0x98fc], .one 0xfa2c [0x9928], .one 0xfa2d [0x9db4], .one 0xfa2e [0x90de],
   .one 0xfa2f [0x96b7], .one 0xfa30 [0x4fae], .one 0xfa31 [0x50e7], .one 0xfa32 [0x514d],
   .one 0xfa33 [0x52c9], .one 0xfa34 [0x52e4], .one 0xfa35 [0x5351], .one 0xfa36 [0x559d],
   .one 0xfa37 [0x5606], .one 0xfa38 [0x5668], .one 0xfa39 [0x5840], .one 0xfa3a [0x58a8],
   .one 0xfa3b [0x5c64], .one 0xfa3c [0x5c6e], .one 0xfa3d [0x6094], .one 0xfa3e [0x6168],
   .one 0xfa3f [0x618e], .one 0xfa40 [0x61f2], .one 0xfa41 [0x654f], .one 0xfa42 [0x65e2],
   .one 0xfa43 [0x6691], .one 0xfa44 [0x6885], .one 0xfa45 [0x6d77], .one 0xfa46 [0x6e1a],
   .one 0xfa47 [0x6f22], .one 0xfa48 [0x716e], .one 0xfa49 [0x722b], .one 0xfa4a [0x7422],
   .one 0xfa4b [0x7891], .one 0xfa4c [0x793e], .one 0xfa4d [0x7949], .one 0xfa4e [0x7948],
   .one 0xfa4f [0x7950], .one 0xfa50 [0x7956], .one 0xfa51 [0x795d], .each 0xfa52 0xfa53 [0x798d],
   .one 0xfa54 [0x7a40], .one 0xfa55 [0x7a81], .one 0xfa56 [0x7bc0], .one 0xfa57 [0x7df4],
   .one 0xfa58 [0x7e09], .one 0xfa59 [0x7e41], .one 0xfa5a [0x7f72], .one 0xfa5b [0x8005],
   .one 0xfa5c [0x81ed], .same 0xfa5d 0xfa5e [0x8279], .one 0xfa5f [0x8457], .one 0xfa60 [0x8910],
   .one 0xfa61 [0x8996], .one 0xfa62 [0x8b01], .one 0xfa63 [0x8b39], .one 0xfa64 [0x8cd3],
   .one 0xfa65 [0x8d08], .one 0xfa66 [0x8fb6], .one 0xfa67 [0x9038], .one 0xfa68 [0x96e3],
   .one 0xfa69 [0x97ff], .one 0xfa6a [0x983b], .one 0xfa6b [0x6075], .one 0xfa6c [0x242ee],
   .one 0xfa6d [0x8218], .one 0xfa70 [0x4e26], .one 0xfa71 [0x51b5], .one 0xfa72 [0x5168],
   .one 0xfa73 [0x4f80], .one 0xfa74 [0x5145], .one 0xfa75 [0x5180], .one 0xfa76 [0x52c7],
   .one 0xfa77 [0x52fa], .one 0xfa78 [0x559d], .one 0xfa79 [0x5555], .one 0xfa7a [0x5599],
   .one 0xfa7b [0x55e2], .one 0xfa7c [0x585a], .one 0xfa7d [0x58b3], .one 0xfa7e [0x5944],
   .one 0xfa7f [0x5954], .one 0xfa80 [0x5a62], .one 0xfa81 [0x5b28], .one 0xfa82 [0x5ed2],
   .one 0xfa83 [0x5ed9], .one 0xfa84 [0x5f69], .one 0xfa85 [0x5fad], .one 0xfa86 [0x60d8],
   .one 0xfa87 [0x614e], .one 0xfa88 [0x6108], .one 0xfa89 [0x618e], .one 0xfa8a [0x6160],
   .one 0xfa8b [0x61f2], .one 0xfa8c [0x6234], .one 0xfa8d [0x63c4], .one 0xfa8e [0x641c],
   .one 0xfa8f [0x6452], .one 0xfa90 [0x6556], .one 0xfa91 [0x6674], .one 0xfa92 [0x6717],
   .one 0xfa93 [0x671b], .one 0xfa94 [0x6756], .one 0xfa95 [0x6b79], .one 0xfa96 [0x6bba],
   .one 0xfa97 [0x6d41], .one 0xfa98 [0x6edb], .one 0xfa99 [0x6ecb], .one 0xfa9a [0x6f22],
   .one 0xfa9b [0x701e], .one 0xfa9c [0x716e], .one 0xfa9d [0x77a7], .one 0xfa9e [0x7235],
   .one 0xfa9f [0x72af], .one 0xfaa0 [0x732a], .one 0xfaa1 [0x7471], .one 0xfaa2 [0x7506],
   .one 0xfaa3 [0x753b], .one 0xfaa4 [0x761d], .one 0xfaa5 [0x761f], .one 0xfaa6 [0x76ca],
   .one 0xfaa7 [0x76db], .one 0xfaa8 [0x76f4], .one 0xfaa9 [0x774a], .one 0xfaaa [0x7740],
   .one 0xfaab [0x78cc], .one 0xfaac [0x7ab1], .one 0xfaad [0x7bc0], .one 0xfaae [0x7c7b],
   .one 0xfaaf [0x7d5b], .one 0xfab0 [0x7df4], .one 0xfab1 [0x7f3e], .one 0xfab2 [0x8005],
   .one 0xfab3 [0x8352], .one 0xfab4 [0x83ef], .one 0xfab5 [0x8779], .one 0xfab6 [0x8941],
   .one 0xfab7 [0x8986], .one 0xfab8 [0x8996], .one 0xfab9 [0x8abf], .one 0xfaba [0x8af8],
   .one 0xfabb [0x8acb], .one 0xfabc [0x8b01], .one 0xfabd [0x8afe], .one 0xfabe [0x8aed],
   .one 0xfabf [0x8b39], .one 0xfac0 [0x8b8a], .one 0xfac1 [0x8d08], .one 0xfac2 [0x8f38],
   .one 0xfac3 [0x9072], .one 0xfac4 [0x9199], .one 0xfac5 [0x9276], .one 0xfac6 [0x967c],
   .one 0xfac7 [0x96e3], .one 0xfac8 [0x9756], .one 0xfac9 [0x97db], .one 0xfaca [0x97ff],
   .one 0xfacb [0x980b], .one 0xfacc [0x983b], .one 0xfacd [0x9b12], .one 0xface [0x9f9c],
   .one 0xfacf [0x2284a], .one 0xfad0 [0x22844], .one 0xfad1 [0x233d5], .one 0xfad2 [0x3b9d],
   .one 0xfad3 [0x4018], .one 0xfad4 [0x4039], .one 0xfad5 [0x25249], .one 0xfad6 [0x25cd0],
   .one 0xfad7 [0x27ed3], .one 0xfad8 [0x9f43], .one 0xfad9 [0x9f8e]]

/-- Of letters that are written in one. -/
def ligatures : List Row :=
  [.one 0xfb00 [0x66, 0x66], .one 0xfb01 [0x66, 0x69], .one 0xfb02 [0x66, 0x6c],
   .one 0xfb03 [0x66, 0x66, 0x69], .one 0xfb04 [0x66, 0x66, 0x6c], .same 0xfb05 0xfb06 [0x73, 0x74],
   .one 0xfb13 [0x574, 0x576], .one 0xfb14 [0x574, 0x565], .one 0xfb15 [0x574, 0x56b],
   .one 0xfb16 [0x57e, 0x576], .one 0xfb17 [0x574, 0x56d], .one 0xfb1d [0x5d9, 0x5b4],
   .one 0xfb1f [0x5f2, 0x5b7], .one 0xfb20 [0x5e2], .one 0xfb21 [0x5d0],
   .each 0xfb22 0xfb23 [0x5d3], .each 0xfb24 0xfb26 [0x5db], .one 0xfb27 [0x5e8],
   .one 0xfb28 [0x5ea], .one 0xfb29 [0x2b], .one 0xfb2a [0x5e9, 0x5c1], .one 0xfb2b [0x5e9, 0x5c2],
   .one 0xfb2c [0x5e9, 0x5bc, 0x5c1], .one 0xfb2d [0x5e9, 0x5bc, 0x5c2], .one 0xfb2e [0x5d0, 0x5b7],
   .one 0xfb2f [0x5d0, 0x5b8], .one 0xfb30 [0x5d0, 0x5bc], .one 0xfb31 [0x5d1, 0x5bc],
   .one 0xfb32 [0x5d2, 0x5bc], .one 0xfb33 [0x5d3, 0x5bc], .one 0xfb34 [0x5d4, 0x5bc],
   .one 0xfb35 [0x5d5, 0x5bc], .one 0xfb36 [0x5d6, 0x5bc], .one 0xfb38 [0x5d8, 0x5bc],
   .one 0xfb39 [0x5d9, 0x5bc], .one 0xfb3a [0x5da, 0x5bc], .one 0xfb3b [0x5db, 0x5bc],
   .one 0xfb3c [0x5dc, 0x5bc], .one 0xfb3e [0x5de, 0x5bc], .one 0xfb40 [0x5e0, 0x5bc],
   .one 0xfb41 [0x5e1, 0x5bc], .one 0xfb43 [0x5e3, 0x5bc], .one 0xfb44 [0x5e4, 0x5bc],
   .one 0xfb46 [0x5e6, 0x5bc], .one 0xfb47 [0x5e7, 0x5bc], .one 0xfb48 [0x5e8, 0x5bc],
   .one 0xfb49 [0x5e9, 0x5bc], .one 0xfb4a [0x5ea, 0x5bc], .one 0xfb4b [0x5d5, 0x5b9],
   .one 0xfb4c [0x5d1, 0x5bf], .one 0xfb4d [0x5db, 0x5bf], .one 0xfb4e [0x5e4, 0x5bf],
   .one 0xfb4f [0x5d0, 0x5dc], .same 0xfb50 0xfb51 [0x671], .same 0xfb52 0xfb55 [0x67b],
   .same 0xfb56 0xfb59 [0x67e], .same 0xfb5a 0xfb5d [0x680], .same 0xfb5e 0xfb61 [0x67a],
   .same 0xfb62 0xfb65 [0x67f], .same 0xfb66 0xfb69 [0x679], .same 0xfb6a 0xfb6d [0x6a4],
   .same 0xfb6e 0xfb71 [0x6a6], .same 0xfb72 0xfb75 [0x684], .same 0xfb76 0xfb79 [0x683],
   .same 0xfb7a 0xfb7d [0x686], .same 0xfb7e 0xfb81 [0x687], .same 0xfb82 0xfb83 [0x68d],
   .other 0xfb84 0xfb86 [0x68c], .other 0xfb85 0xfb87 [0x68c], .same 0xfb88 0xfb89 [0x688],
   .same 0xfb8a 0xfb8b [0x698], .same 0xfb8c 0xfb8d [0x691], .same 0xfb8e 0xfb91 [0x6a9],
   .same 0xfb92 0xfb95 [0x6af], .same 0xfb96 0xfb99 [0x6b3], .same 0xfb9a 0xfb9d [0x6b1],
   .same 0xfb9e 0xfb9f [0x6ba], .same 0xfba0 0xfba3 [0x6bb], .same 0xfba4 0xfba5 [0x6c0],
   .same 0xfba6 0xfba9 [0x6c1], .same 0xfbaa 0xfbad [0x6be], .same 0xfbae 0xfbaf [0x6d2],
   .same 0xfbb0 0xfbb1 [0x6d3], .same 0xfbd3 0xfbd6 [0x6ad], .same 0xfbd7 0xfbd8 [0x6c7],
   .other 0xfbd9 0xfbdb [0x6c6], .other 0xfbda 0xfbdc [0x6c6], .one 0xfbdd [0x6c7, 0x674],
   .same 0xfbde 0xfbdf [0x6cb], .same 0xfbe0 0xfbe1 [0x6c5], .same 0xfbe2 0xfbe3 [0x6c9],
   .same 0xfbe4 0xfbe7 [0x6d0], .same 0xfbe8 0xfbe9 [0x649], .same 0xfbea 0xfbeb [0x626, 0x627],
   .same 0xfbec 0xfbed [0x626, 0x6d5], .same 0xfbee 0xfbef [0x626, 0x648],
   .same 0xfbf0 0xfbf1 [0x626, 0x6c7], .same 0xfbf2 0xfbf3 [0x626, 0x6c6],
   .same 0xfbf4 0xfbf5 [0x626, 0x6c8], .same 0xfbf6 0xfbf8 [0x626, 0x6d0],
   .same 0xfbf9 0xfbfb [0x626, 0x649], .same 0xfbfc 0xfbff [0x6cc], .one 0xfc00 [0x626, 0x62c],
   .one 0xfc01 [0x626, 0x62d], .one 0xfc02 [0x626, 0x645], .one 0xfc03 [0x626, 0x649],
   .one 0xfc04 [0x626, 0x64a], .one 0xfc05 [0x628, 0x62c], .one 0xfc06 [0x628, 0x62d],
   .one 0xfc07 [0x628, 0x62e], .one 0xfc08 [0x628, 0x645], .one 0xfc09 [0x628, 0x649],
   .one 0xfc0a [0x628, 0x64a], .one 0xfc0b [0x62a, 0x62c], .one 0xfc0c [0x62a, 0x62d],
   .one 0xfc0d [0x62a, 0x62e], .one 0xfc0e [0x62a, 0x645], .one 0xfc0f [0x62a, 0x649],
   .one 0xfc10 [0x62a, 0x64a], .one 0xfc11 [0x62b, 0x62c], .one 0xfc12 [0x62b, 0x645],
   .one 0xfc13 [0x62b, 0x649], .one 0xfc14 [0x62b, 0x64a], .one 0xfc15 [0x62c, 0x62d],
   .one 0xfc16 [0x62c, 0x645], .one 0xfc17 [0x62d, 0x62c], .one 0xfc18 [0x62d, 0x645],
   .one 0xfc19 [0x62e, 0x62c], .one 0xfc1a [0x62e, 0x62d], .one 0xfc1b [0x62e, 0x645],
   .one 0xfc1c [0x633, 0x62c], .one 0xfc1d [0x633, 0x62d], .one 0xfc1e [0x633, 0x62e],
   .one 0xfc1f [0x633, 0x645], .one 0xfc20 [0x635, 0x62d], .one 0xfc21 [0x635, 0x645],
   .one 0xfc22 [0x636, 0x62c], .one 0xfc23 [0x636, 0x62d], .one 0xfc24 [0x636, 0x62e],
   .one 0xfc25 [0x636, 0x645], .one 0xfc26 [0x637, 0x62d], .one 0xfc27 [0x637, 0x645],
   .one 0xfc28 [0x638, 0x645], .one 0xfc29 [0x639, 0x62c], .one 0xfc2a [0x639, 0x645],
   .one 0xfc2b [0x63a, 0x62c], .one 0xfc2c [0x63a, 0x645], .one 0xfc2d [0x641, 0x62c],
   .one 0xfc2e [0x641, 0x62d], .one 0xfc2f [0x641, 0x62e], .one 0xfc30 [0x641, 0x645],
   .one 0xfc31 [0x641, 0x649], .one 0xfc32 [0x641, 0x64a], .one 0xfc33 [0x642, 0x62d],
   .one 0xfc34 [0x642, 0x645], .one 0xfc35 [0x642, 0x649], .one 0xfc36 [0x642, 0x64a],
   .one 0xfc37 [0x643, 0x627], .one 0xfc38 [0x643, 0x62c], .one 0xfc39 [0x643, 0x62d],
   .one 0xfc3a [0x643, 0x62e], .one 0xfc3b [0x643, 0x644], .one 0xfc3c [0x643, 0x645],
   .one 0xfc3d [0x643, 0x649], .one 0xfc3e [0x643, 0x64a], .one 0xfc3f [0x644, 0x62c],
   .one 0xfc40 [0x644, 0x62d], .one 0xfc41 [0x644, 0x62e], .one 0xfc42 [0x644, 0x645],
   .one 0xfc43 [0x644, 0x649], .one 0xfc44 [0x644, 0x64a], .one 0xfc45 [0x645, 0x62c],
   .one 0xfc46 [0x645, 0x62d], .one 0xfc47 [0x645, 0x62e], .one 0xfc48 [0x645, 0x645],
   .one 0xfc49 [0x645, 0x649], .one 0xfc4a [0x645, 0x64a], .one 0xfc4b [0x646, 0x62c],
   .one 0xfc4c [0x646, 0x62d], .one 0xfc4d [0x646, 0x62e], .one 0xfc4e [0x646, 0x645],
   .one 0xfc4f [0x646, 0x649], .one 0xfc50 [0x646, 0x64a], .one 0xfc51 [0x647, 0x62c],
   .one 0xfc52 [0x647, 0x645], .one 0xfc53 [0x647, 0x649], .one 0xfc54 [0x647, 0x64a],
   .one 0xfc55 [0x64a, 0x62c], .one 0xfc56 [0x64a, 0x62d], .one 0xfc57 [0x64a, 0x62e],
   .one 0xfc58 [0x64a, 0x645], .one 0xfc59 [0x64a, 0x649], .one 0xfc5a [0x64a, 0x64a],
   .one 0xfc5b [0x630, 0x670], .one 0xfc5c [0x631, 0x670], .one 0xfc5d [0x649, 0x670],
   .one 0xfc5e [0x20, 0x64c, 0x651], .one 0xfc5f [0x20, 0x64d, 0x651],
   .one 0xfc60 [0x20, 0x64e, 0x651], .one 0xfc61 [0x20, 0x64f, 0x651],
   .one 0xfc62 [0x20, 0x650, 0x651], .one 0xfc63 [0x20, 0x651, 0x670], .one 0xfc64 [0x626, 0x631],
   .one 0xfc65 [0x626, 0x632], .one 0xfc66 [0x626, 0x645], .one 0xfc67 [0x626, 0x646],
   .one 0xfc68 [0x626, 0x649], .one 0xfc69 [0x626, 0x64a], .one 0xfc6a [0x628, 0x631],
   .one 0xfc6b [0x628, 0x632], .one 0xfc6c [0x628, 0x645], .one 0xfc6d [0x628, 0x646],
   .one 0xfc6e [0x628, 0x649], .one 0xfc6f [0x628, 0x64a], .one 0xfc70 [0x62a, 0x631],
   .one 0xfc71 [0x62a, 0x632], .one 0xfc72 [0x62a, 0x645], .one 0xfc73 [0x62a, 0x646],
   .one 0xfc74 [0x62a, 0x649], .one 0xfc75 [0x62a, 0x64a], .one 0xfc76 [0x62b, 0x631],
   .one 0xfc77 [0x62b, 0x632], .one 0xfc78 [0x62b, 0x645], .one 0xfc79 [0x62b, 0x646],
   .one 0xfc7a [0x62b, 0x649], .one 0xfc7b [0x62b, 0x64a], .one 0xfc7c [0x641, 0x649],
   .one 0xfc7d [0x641, 0x64a], .one 0xfc7e [0x642, 0x649], .one 0xfc7f [0x642, 0x64a],
   .one 0xfc80 [0x643, 0x627], .one 0xfc81 [0x643, 0x644], .one 0xfc82 [0x643, 0x645],
   .one 0xfc83 [0x643, 0x649], .one 0xfc84 [0x643, 0x64a], .one 0xfc85 [0x644, 0x645],
   .one 0xfc86 [0x644, 0x649], .one 0xfc87 [0x644, 0x64a], .one 0xfc88 [0x645, 0x627],
   .one 0xfc89 [0x645, 0x645], .one 0xfc8a [0x646, 0x631], .one 0xfc8b [0x646, 0x632],
   .one 0xfc8c [0x646, 0x645], .one 0xfc8d [0x646, 0x646], .one 0xfc8e [0x646, 0x649],
   .one 0xfc8f [0x646, 0x64a], .one 0xfc90 [0x649, 0x670], .one 0xfc91 [0x64a, 0x631],
   .one 0xfc92 [0x64a, 0x632], .one 0xfc93 [0x64a, 0x645], .one 0xfc94 [0x64a, 0x646],
   .one 0xfc95 [0x64a, 0x649], .one 0xfc96 [0x64a, 0x64a], .one 0xfc97 [0x626, 0x62c],
   .one 0xfc98 [0x626, 0x62d], .one 0xfc99 [0x626, 0x62e], .one 0xfc9a [0x626, 0x645],
   .one 0xfc9b [0x626, 0x647], .one 0xfc9c [0x628, 0x62c], .one 0xfc9d [0x628, 0x62d],
   .one 0xfc9e [0x628, 0x62e], .one 0xfc9f [0x628, 0x645], .one 0xfca0 [0x628, 0x647],
   .one 0xfca1 [0x62a, 0x62c], .one 0xfca2 [0x62a, 0x62d], .one 0xfca3 [0x62a, 0x62e],
   .one 0xfca4 [0x62a, 0x645], .one 0xfca5 [0x62a, 0x647], .one 0xfca6 [0x62b, 0x645],
   .one 0xfca7 [0x62c, 0x62d], .one 0xfca8 [0x62c, 0x645], .one 0xfca9 [0x62d, 0x62c],
   .one 0xfcaa [0x62d, 0x645], .one 0xfcab [0x62e, 0x62c], .one 0xfcac [0x62e, 0x645],
   .one 0xfcad [0x633, 0x62c], .one 0xfcae [0x633, 0x62d], .one 0xfcaf [0x633, 0x62e],
   .one 0xfcb0 [0x633, 0x645], .one 0xfcb1 [0x635, 0x62d], .one 0xfcb2 [0x635, 0x62e],
   .one 0xfcb3 [0x635, 0x645], .one 0xfcb4 [0x636, 0x62c], .one 0xfcb5 [0x636, 0x62d],
   .one 0xfcb6 [0x636, 0x62e], .one 0xfcb7 [0x636, 0x645], .one 0xfcb8 [0x637, 0x62d],
   .one 0xfcb9 [0x638, 0x645], .one 0xfcba [0x639, 0x62c], .one 0xfcbb [0x639, 0x645],
   .one 0xfcbc [0x63a, 0x62c], .one 0xfcbd [0x63a, 0x645], .one 0xfcbe [0x641, 0x62c],
   .one 0xfcbf [0x641, 0x62d], .one 0xfcc0 [0x641, 0x62e], .one 0xfcc1 [0x641, 0x645],
   .one 0xfcc2 [0x642, 0x62d], .one 0xfcc3 [0x642, 0x645], .one 0xfcc4 [0x643, 0x62c],
   .one 0xfcc5 [0x643, 0x62d], .one 0xfcc6 [0x643, 0x62e], .one 0xfcc7 [0x643, 0x644],
   .one 0xfcc8 [0x643, 0x645], .one 0xfcc9 [0x644, 0x62c], .one 0xfcca [0x644, 0x62d],
   .one 0xfccb [0x644, 0x62e], .one 0xfccc [0x644, 0x645], .one 0xfccd [0x644, 0x647],
   .one 0xfcce [0x645, 0x62c], .one 0xfccf [0x645, 0x62d], .one 0xfcd0 [0x645, 0x62e],
   .one 0xfcd1 [0x645, 0x645], .one 0xfcd2 [0x646, 0x62c], .one 0xfcd3 [0x646, 0x62d],
   .one 0xfcd4 [0x646, 0x62e], .one 0xfcd5 [0x646, 0x645], .one 0xfcd6 [0x646, 0x647],
   .one 0xfcd7 [0x647, 0x62c], .one 0xfcd8 [0x647, 0x645], .one 0xfcd9 [0x647, 0x670],
   .one 0xfcda [0x64a, 0x62c], .one 0xfcdb [0x64a, 0x62d], .one 0xfcdc [0x64a, 0x62e],
   .one 0xfcdd [0x64a, 0x645], .one 0xfcde [0x64a, 0x647], .one 0xfcdf [0x626, 0x645],
   .one 0xfce0 [0x626, 0x647], .one 0xfce1 [0x628, 0x645], .one 0xfce2 [0x628, 0x647],
   .one 0xfce3 [0x62a, 0x645], .one 0xfce4 [0x62a, 0x647], .one 0xfce5 [0x62b, 0x645],
   .one 0xfce6 [0x62b, 0x647], .one 0xfce7 [0x633, 0x645], .one 0xfce8 [0x633, 0x647],
   .one 0xfce9 [0x634, 0x645], .one 0xfcea [0x634, 0x647], .one 0xfceb [0x643, 0x644],
   .one 0xfcec [0x643, 0x645], .one 0xfced [0x644, 0x645], .one 0xfcee [0x646, 0x645],
   .one 0xfcef [0x646, 0x647], .one 0xfcf0 [0x64a, 0x645], .one 0xfcf1 [0x64a, 0x647],
   .one 0xfcf2 [0x640, 0x64e, 0x651], .one 0xfcf3 [0x640, 0x64f, 0x651],
   .one 0xfcf4 [0x640, 0x650, 0x651], .one 0xfcf5 [0x637, 0x649], .one 0xfcf6 [0x637, 0x64a],
   .one 0xfcf7 [0x639, 0x649], .one 0xfcf8 [0x639, 0x64a], .one 0xfcf9 [0x63a, 0x649],
   .one 0xfcfa [0x63a, 0x64a], .one 0xfcfb [0x633, 0x649], .one 0xfcfc [0x633, 0x64a],
   .one 0xfcfd [0x634, 0x649], .one 0xfcfe [0x634, 0x64a], .one 0xfcff [0x62d, 0x649],
   .one 0xfd00 [0x62d, 0x64a], .one 0xfd01 [0x62c, 0x649], .one 0xfd02 [0x62c, 0x64a],
   .one 0xfd03 [0x62e, 0x649], .one 0xfd04 [0x62e, 0x64a], .one 0xfd05 [0x635, 0x649],
   .one 0xfd06 [0x635, 0x64a], .one 0xfd07 [0x636, 0x649], .one 0xfd08 [0x636, 0x64a],
   .one 0xfd09 [0x634, 0x62c], .one 0xfd0a [0x634, 0x62d], .one 0xfd0b [0x634, 0x62e],
   .one 0xfd0c [0x634, 0x645], .one 0xfd0d [0x634, 0x631], .one 0xfd0e [0x633, 0x631],
   .one 0xfd0f [0x635, 0x631], .one 0xfd10 [0x636, 0x631], .one 0xfd11 [0x637, 0x649],
   .one 0xfd12 [0x637, 0x64a], .one 0xfd13 [0x639, 0x649], .one 0xfd14 [0x639, 0x64a],
   .one 0xfd15 [0x63a, 0x649], .one 0xfd16 [0x63a, 0x64a], .one 0xfd17 [0x633, 0x649],
   .one 0xfd18 [0x633, 0x64a], .one 0xfd19 [0x634, 0x649], .one 0xfd1a [0x634, 0x64a],
   .one 0xfd1b [0x62d, 0x649], .one 0xfd1c [0x62d, 0x64a], .one 0xfd1d [0x62c, 0x649],
   .one 0xfd1e [0x62c, 0x64a], .one 0xfd1f [0x62e, 0x649], .one 0xfd20 [0x62e, 0x64a],
   .one 0xfd21 [0x635, 0x649], .one 0xfd22 [0x635, 0x64a], .one 0xfd23 [0x636, 0x649],
   .one 0xfd24 [0x636, 0x64a], .one 0xfd25 [0x634, 0x62c], .one 0xfd26 [0x634, 0x62d],
   .one 0xfd27 [0x634, 0x62e], .one 0xfd28 [0x634, 0x645], .one 0xfd29 [0x634, 0x631],
   .one 0xfd2a [0x633, 0x631], .one 0xfd2b [0x635, 0x631], .one 0xfd2c [0x636, 0x631],
   .one 0xfd2d [0x634, 0x62c], .one 0xfd2e [0x634, 0x62d], .one 0xfd2f [0x634, 0x62e],
   .one 0xfd30 [0x634, 0x645], .one 0xfd31 [0x633, 0x647], .one 0xfd32 [0x634, 0x647],
   .one 0xfd33 [0x637, 0x645], .one 0xfd34 [0x633, 0x62c], .one 0xfd35 [0x633, 0x62d],
   .one 0xfd36 [0x633, 0x62e], .one 0xfd37 [0x634, 0x62c], .one 0xfd38 [0x634, 0x62d],
   .one 0xfd39 [0x634, 0x62e], .one 0xfd3a [0x637, 0x645], .one 0xfd3b [0x638, 0x645],
   .same 0xfd3c 0xfd3d [0x627, 0x64b], .one 0xfd50 [0x62a, 0x62c, 0x645],
   .same 0xfd51 0xfd52 [0x62a, 0x62d, 0x62c], .one 0xfd53 [0x62a, 0x62d, 0x645],
   .one 0xfd54 [0x62a, 0x62e, 0x645], .one 0xfd55 [0x62a, 0x645, 0x62c],
   .one 0xfd56 [0x62a, 0x645, 0x62d], .one 0xfd57 [0x62a, 0x645, 0x62e],
   .same 0xfd58 0xfd59 [0x62c, 0x645, 0x62d], .one 0xfd5a [0x62d, 0x645, 0x64a],
   .one 0xfd5b [0x62d, 0x645, 0x649], .one 0xfd5c [0x633, 0x62d, 0x62c],
   .one 0xfd5d [0x633, 0x62c, 0x62d], .one 0xfd5e [0x633, 0x62c, 0x649],
   .same 0xfd5f 0xfd60 [0x633, 0x645, 0x62d], .one 0xfd61 [0x633, 0x645, 0x62c],
   .same 0xfd62 0xfd63 [0x633, 0x645, 0x645], .same 0xfd64 0xfd65 [0x635, 0x62d, 0x62d],
   .one 0xfd66 [0x635, 0x645, 0x645], .same 0xfd67 0xfd68 [0x634, 0x62d, 0x645],
   .one 0xfd69 [0x634, 0x62c, 0x64a], .same 0xfd6a 0xfd6b [0x634, 0x645, 0x62e],
   .same 0xfd6c 0xfd6d [0x634, 0x645, 0x645], .one 0xfd6e [0x636, 0x62d, 0x649],
   .same 0xfd6f 0xfd70 [0x636, 0x62e, 0x645], .same 0xfd71 0xfd72 [0x637, 0x645, 0x62d],
   .one 0xfd73 [0x637, 0x645, 0x645], .one 0xfd74 [0x637, 0x645, 0x64a],
   .one 0xfd75 [0x639, 0x62c, 0x645], .same 0xfd76 0xfd77 [0x639, 0x645, 0x645],
   .one 0xfd78 [0x639, 0x645, 0x649], .one 0xfd79 [0x63a, 0x645, 0x645],
   .one 0xfd7a [0x63a, 0x645, 0x64a], .one 0xfd7b [0x63a, 0x645, 0x649],
   .same 0xfd7c 0xfd7d [0x641, 0x62e, 0x645], .one 0xfd7e [0x642, 0x645, 0x62d],
   .one 0xfd7f [0x642, 0x645, 0x645], .one 0xfd80 [0x644, 0x62d, 0x645],
   .one 0xfd81 [0x644, 0x62d, 0x64a], .one 0xfd82 [0x644, 0x62d, 0x649],
   .same 0xfd83 0xfd84 [0x644, 0x62c, 0x62c], .same 0xfd85 0xfd86 [0x644, 0x62e, 0x645],
   .same 0xfd87 0xfd88 [0x644, 0x645, 0x62d], .one 0xfd89 [0x645, 0x62d, 0x62c],
   .one 0xfd8a [0x645, 0x62d, 0x645], .one 0xfd8b [0x645, 0x62d, 0x64a],
   .one 0xfd8c [0x645, 0x62c, 0x62d], .one 0xfd8d [0x645, 0x62c, 0x645],
   .one 0xfd8e [0x645, 0x62e, 0x62c], .one 0xfd8f [0x645, 0x62e, 0x645],
   .one 0xfd92 [0x645, 0x62c, 0x62e], .one 0xfd93 [0x647, 0x645, 0x62c],
   .one 0xfd94 [0x647, 0x645, 0x645], .one 0xfd95 [0x646, 0x62d, 0x645],
   .one 0xfd96 [0x646, 0x62d, 0x649], .same 0xfd97 0xfd98 [0x646, 0x62c, 0x645],
   .one 0xfd99 [0x646, 0x62c, 0x649], .one 0xfd9a [0x646, 0x645, 0x64a],
   .one 0xfd9b [0x646, 0x645, 0x649], .same 0xfd9c 0xfd9d [0x64a, 0x645, 0x645],
   .one 0xfd9e [0x628, 0x62e, 0x64a], .one 0xfd9f [0x62a, 0x62c, 0x64a],
   .one 0xfda0 [0x62a, 0x62c, 0x649], .one 0xfda1 [0x62a, 0x62e, 0x64a],
   .one 0xfda2 [0x62a, 0x62e, 0x649], .one 0xfda3 [0x62a, 0x645, 0x64a],
   .one 0xfda4 [0x62a, 0x645, 0x649], .one 0xfda5 [0x62c, 0x645, 0x64a],
   .one 0xfda6 [0x62c, 0x62d, 0x649], .one 0xfda7 [0x62c, 0x645, 0x649],
   .one 0xfda8 [0x633, 0x62e, 0x649], .one 0xfda9 [0x635, 0x62d, 0x64a],
   .one 0xfdaa [0x634, 0x62d, 0x64a], .one 0xfdab [0x636, 0x62d, 0x64a],
   .one 0xfdac [0x644, 0x62c, 0x64a], .one 0xfdad [0x644, 0x645, 0x64a],
   .one 0xfdae [0x64a, 0x62d, 0x64a], .one 0xfdaf [0x64a, 0x62c, 0x64a],
   .one 0xfdb0 [0x64a, 0x645, 0x64a], .one 0xfdb1 [0x645, 0x645, 0x64a],
   .one 0xfdb2 [0x642, 0x645, 0x64a], .one 0xfdb3 [0x646, 0x62d, 0x64a],
   .one 0xfdb4 [0x642, 0x645, 0x62d], .one 0xfdb5 [0x644, 0x62d, 0x645],
   .one 0xfdb6 [0x639, 0x645, 0x64a], .one 0xfdb7 [0x643, 0x645, 0x64a],
   .one 0xfdb8 [0x646, 0x62c, 0x62d], .one 0xfdb9 [0x645, 0x62e, 0x64a],
   .one 0xfdba [0x644, 0x62c, 0x645], .one 0xfdbb [0x643, 0x645, 0x645],
   .one 0xfdbc [0x644, 0x62c, 0x645], .one 0xfdbd [0x646, 0x62c, 0x62d],
   .one 0xfdbe [0x62c, 0x62d, 0x64a], .one 0xfdbf [0x62d, 0x62c, 0x64a],
   .one 0xfdc0 [0x645, 0x62c, 0x64a], .one 0xfdc1 [0x641, 0x645, 0x64a],
   .one 0xfdc2 [0x628, 0x62d, 0x64a], .one 0xfdc3 [0x643, 0x645, 0x645],
   .one 0xfdc4 [0x639, 0x62c, 0x645], .one 0xfdc5 [0x635, 0x645, 0x645],
   .one 0xfdc6 [0x633, 0x62e, 0x64a], .one 0xfdc7 [0x646, 0x62c, 0x64a],
   .one 0xfdf0 [0x635, 0x644, 0x6d2], .one 0xfdf1 [0x642, 0x644, 0x6d2],
   .one 0xfdf2 [0x627, 0x644, 0x644, 0x647], .one 0xfdf3 [0x627, 0x643, 0x628, 0x631],
   .one 0xfdf4 [0x645, 0x62d, 0x645, 0x62f], .one 0xfdf5 [0x635, 0x644, 0x639, 0x645],
   .one 0xfdf6 [0x631, 0x633, 0x648, 0x644], .one 0xfdf7 [0x639, 0x644, 0x64a, 0x647],
   .one 0xfdf8 [0x648, 0x633, 0x644, 0x645], .one 0xfdf9 [0x635, 0x644, 0x649],
   .one 0xfdfa [0x635, 0x644, 0x649, 0x20, 0x627, 0x644, 0x644, 0x647, 0x20, 0x639, 0x644, 0x64a,
    0x647, 0x20, 0x648, 0x633, 0x644, 0x645],
   .one 0xfdfb [0x62c, 0x644, 0x20, 0x62c, 0x644, 0x627, 0x644, 0x647],
   .one 0xfdfc [0x631, 0x6cc, 0x627, 0x644]]

/-- Of wide and narrow forms. -/
def widths : List Row :=
  [.one 0xfe10 [0x2c], .one 0xfe11 [0x3001], .each 0xfe13 0xfe14 [0x3a], .one 0xfe15 [0x21],
   .one 0xfe16 [0x3f], .each 0xfe17 0xfe18 [0x3016], .one 0xfe31 [0x2014], .one 0xfe32 [0x2013],
   .same 0xfe33 0xfe34 [0x5f], .each 0xfe35 0xfe36 [0x28], .one 0xfe37 [0x7b], .one 0xfe38 [0x7d],
   .each 0xfe39 0xfe3a [0x3014], .each 0xfe3b 0xfe3c [0x3010], .each 0xfe3d 0xfe3e [0x300a],
   .each 0xfe3f 0xfe40 [0x3008], .each 0xfe41 0xfe44 [0x300c], .one 0xfe47 [0x5b],
   .one 0xfe48 [0x5d], .same 0xfe49 0xfe4c [0x20, 0x305], .same 0xfe4d 0xfe4f [0x5f],
   .one 0xfe50 [0x2c], .one 0xfe51 [0x3001], .one 0xfe54 [0x3b], .one 0xfe55 [0x3a],
   .one 0xfe56 [0x3f], .one 0xfe57 [0x21], .one 0xfe58 [0x2014], .each 0xfe59 0xfe5a [0x28],
   .one 0xfe5b [0x7b], .one 0xfe5c [0x7d], .each 0xfe5d 0xfe5e [0x3014], .one 0xfe5f [0x23],
   .one 0xfe60 [0x26], .each 0xfe61 0xfe62 [0x2a], .one 0xfe63 [0x2d], .one 0xfe64 [0x3c],
   .one 0xfe65 [0x3e], .one 0xfe66 [0x3d], .one 0xfe68 [0x5c], .each 0xfe69 0xfe6a [0x24],
   .one 0xfe6b [0x40], .one 0xfe70 [0x20, 0x64b], .one 0xfe71 [0x640, 0x64b],
   .one 0xfe72 [0x20, 0x64c], .one 0xfe74 [0x20, 0x64d], .one 0xfe76 [0x20, 0x64e],
   .one 0xfe77 [0x640, 0x64e], .one 0xfe78 [0x20, 0x64f], .one 0xfe79 [0x640, 0x64f],
   .one 0xfe7a [0x20, 0x650], .one 0xfe7b [0x640, 0x650], .one 0xfe7c [0x20, 0x651],
   .one 0xfe7d [0x640, 0x651], .one 0xfe7e [0x20, 0x652], .one 0xfe7f [0x640, 0x652],
   .each 0xfe80 0xfe81 [0x621], .each 0xfe82 0xfe83 [0x622], .each 0xfe84 0xfe85 [0x623],
   .each 0xfe86 0xfe87 [0x624], .each 0xfe88 0xfe89 [0x625], .same 0xfe8a 0xfe8c [0x626],
   .same 0xfe8d 0xfe8e [0x627], .same 0xfe8f 0xfe92 [0x628], .same 0xfe93 0xfe94 [0x629],
   .same 0xfe95 0xfe98 [0x62a], .same 0xfe99 0xfe9c [0x62b], .same 0xfe9d 0xfea0 [0x62c],
   .same 0xfea1 0xfea4 [0x62d], .same 0xfea5 0xfea8 [0x62e], .same 0xfea9 0xfeaa [0x62f],
   .same 0xfeab 0xfeac [0x630], .same 0xfead 0xfeae [0x631], .same 0xfeaf 0xfeb0 [0x632],
   .same 0xfeb1 0xfeb4 [0x633], .same 0xfeb5 0xfeb8 [0x634], .same 0xfeb9 0xfebc [0x635],
   .same 0xfebd 0xfec0 [0x636], .same 0xfec1 0xfec4 [0x637], .same 0xfec5 0xfec8 [0x638],
   .same 0xfec9 0xfecc [0x639], .same 0xfecd 0xfed0 [0x63a], .same 0xfed1 0xfed4 [0x641],
   .same 0xfed5 0xfed8 [0x642], .same 0xfed9 0xfedc [0x643], .same 0xfedd 0xfee0 [0x644],
   .same 0xfee1 0xfee4 [0x645], .same 0xfee5 0xfee8 [0x646], .same 0xfee9 0xfeec [0x647],
   .same 0xfeed 0xfeee [0x648], .same 0xfeef 0xfef0 [0x649], .same 0xfef1 0xfef4 [0x64a],
   .same 0xfef5 0xfef6 [0x644, 0x622], .same 0xfef7 0xfef8 [0x644, 0x623],
   .same 0xfef9 0xfefa [0x644, 0x625], .same 0xfefb 0xfefc [0x644, 0x627],
   .each 0xff01 0xff20 [0x21], .each 0xff21 0xff3a [0x61], .each 0xff3b 0xff5e [0x5b],
   .each 0xff5f 0xff60 [0x2985], .one 0xff61 [0x2e], .each 0xff62 0xff63 [0x300c],
   .one 0xff64 [0x3001], .one 0xff65 [0x30fb], .one 0xff66 [0x30f2], .one 0xff67 [0x30a1],
   .one 0xff68 [0x30a3], .one 0xff69 [0x30a5], .one 0xff6a [0x30a7], .one 0xff6b [0x30a9],
   .one 0xff6c [0x30e3], .one 0xff6d [0x30e5], .one 0xff6e [0x30e7], .one 0xff6f [0x30c3],
   .one 0xff70 [0x30fc], .one 0xff71 [0x30a2], .one 0xff72 [0x30a4], .one 0xff73 [0x30a6],
   .one 0xff74 [0x30a8], .each 0xff75 0xff76 [0x30aa], .one 0xff77 [0x30ad], .one 0xff78 [0x30af],
   .one 0xff79 [0x30b1], .one 0xff7a [0x30b3], .one 0xff7b [0x30b5], .one 0xff7c [0x30b7],
   .one 0xff7d [0x30b9], .one 0xff7e [0x30bb], .one 0xff7f [0x30bd], .one 0xff80 [0x30bf],
   .one 0xff81 [0x30c1], .one 0xff82 [0x30c4], .one 0xff83 [0x30c6], .one 0xff84 [0x30c8],
   .each 0xff85 0xff8a [0x30ca], .one 0xff8b [0x30d2], .one 0xff8c [0x30d5], .one 0xff8d [0x30d8],
   .one 0xff8e [0x30db], .each 0xff8f 0xff93 [0x30de], .one 0xff94 [0x30e4], .one 0xff95 [0x30e6],
   .each 0xff96 0xff9b [0x30e8], .one 0xff9c [0x30ef], .one 0xff9d [0x30f3],
   .each 0xff9e 0xff9f [0x3099], .each 0xffa1 0xffa2 [0x1100], .other 0xffa3 0xffa5 [0x11aa],
   .one 0xffa4 [0x1102], .one 0xffa6 [0x11ad], .each 0xffa7 0xffa9 [0x1103],
   .each 0xffaa 0xffaf [0x11b0], .one 0xffb0 [0x111a], .each 0xffb1 0xffb3 [0x1106],
   .one 0xffb4 [0x1121], .each 0xffb5 0xffbe [0x1109], .each 0xffc2 0xffc7 [0x1161],
   .each 0xffca 0xffcf [0x1167], .each 0xffd2 0xffd7 [0x116d], .each 0xffda 0xffdc [0x1173],
   .each 0xffe0 0xffe1 [0xa2], .one 0xffe2 [0xac], .one 0xffe3 [0x20, 0x304], .one 0xffe4 [0xa6],
   .one 0xffe5 [0xa5], .one 0xffe6 [0x20a9], .one 0xffe8 [0x2502], .each 0xffe9 0xffec [0x2190],
   .one 0xffed [0x25a0], .one 0xffee [0x25cb]]

/-- Of letters in special fonts, and of the capitals of rare scripts. -/
def fonts : List Row :=
  [.each 0x10400 0x10427 [0x10428], .each 0x104b0 0x104d3 [0x104d8],
   .other 0x10570 0x10594 [0x10597], .other 0x10571 0x10579 [0x10598],
   .other 0x1057d 0x10589 [0x105a4], .other 0x1058d 0x10591 [0x105b4], .one 0x10595 [0x105bc],
   .each 0x10781 0x10782 [0x2d0], .one 0x10783 [0xe6], .one 0x10784 [0x299], .one 0x10785 [0x253],
   .other 0x10787 0x10789 [0x2a3], .one 0x10788 [0xab66], .one 0x1078a [0x2a4],
   .each 0x1078b 0x1078c [0x256], .one 0x1078d [0x1d91], .one 0x1078e [0x258], .one 0x1078f [0x25e],
   .one 0x10790 [0x2a9], .one 0x10791 [0x264], .one 0x10792 [0x262], .one 0x10793 [0x260],
   .one 0x10794 [0x29b], .one 0x10795 [0x127], .one 0x10796 [0x29c], .one 0x10797 [0x267],
   .one 0x10798 [0x284], .each 0x10799 0x1079a [0x2aa], .one 0x1079b [0x26c],
   .one 0x1079c [0x1df04], .one 0x1079d [0xa78e], .one 0x1079e [0x26e], .one 0x1079f [0x1df05],
   .one 0x107a0 [0x28e], .one 0x107a1 [0x1df06], .one 0x107a2 [0xf8], .each 0x107a3 0x107a4 [0x276],
   .one 0x107a5 [0x71], .one 0x107a6 [0x27a], .one 0x107a7 [0x1df08], .each 0x107a8 0x107a9 [0x27d],
   .one 0x107aa [0x280], .one 0x107ab [0x2a8], .one 0x107ac [0x2a6], .one 0x107ad [0xab67],
   .one 0x107ae [0x2a7], .one 0x107af [0x288], .one 0x107b0 [0x2c71], .one 0x107b2 [0x28f],
   .each 0x107b3 0x107b4 [0x2a1], .one 0x107b5 [0x298], .each 0x107b6 0x107b8 [0x1c0],
   .one 0x107b9 [0x1df0a], .one 0x107ba [0x1df1e], .each 0x10c80 0x10cb2 [0x10cc0],
   .each 0x10d50 0x10d65 [0x10d70], .each 0x118a0 0x118bf [0x118c0],
   .each 0x16e40 0x16e5f [0x16e60], .each 0x16ea0 0x16eb8 [0x16ebb], .each 0x1ccd6 0x1ccef [0x61],
   .each 0x1ccf0 0x1ccf9 [0x30], .one 0x1d15e [0x1d157, 0x1d165], .one 0x1d15f [0x1d158, 0x1d165],
   .one 0x1d160 [0x1d158, 0x1d165, 0x1d16e], .one 0x1d161 [0x1d158, 0x1d165, 0x1d16f],
   .one 0x1d162 [0x1d158, 0x1d165, 0x1d170], .one 0x1d163 [0x1d158, 0x1d165, 0x1d171],
   .one 0x1d164 [0x1d158, 0x1d165, 0x1d172], .one 0x1d1bb [0x1d1b9, 0x1d165],
   .one 0x1d1bc [0x1d1ba, 0x1d165], .one 0x1d1bd [0x1d1b9, 0x1d165, 0x1d16e],
   .one 0x1d1be [0x1d1ba, 0x1d165, 0x1d16e], .one 0x1d1bf [0x1d1b9, 0x1d165, 0x1d16f],
   .one 0x1d1c0 [0x1d1ba, 0x1d165, 0x1d16f], .each 0x1d400 0x1d419 [0x61],
   .each 0x1d41a 0x1d433 [0x61], .each 0x1d434 0x1d44d [0x61], .other 0x1d44e 0x1d466 [0x61],
   .other 0x1d44f 0x1d453 [0x62], .other 0x1d457 0x1d467 [0x6a], .each 0x1d468 0x1d481 [0x61],
   .each 0x1d482 0x1d49b [0x61], .other 0x1d49c 0x1d49e [0x61], .one 0x1d49f [0x64],
   .one 0x1d4a2 [0x67], .each 0x1d4a5 0x1d4a6 [0x6a], .each 0x1d4a9 0x1d4ac [0x6e],
   .each 0x1d4ae 0x1d4b5 [0x73], .each 0x1d4b6 0x1d4b9 [0x61], .other 0x1d4bb 0x1d4cf [0x66],
   .other 0x1d4be 0x1d4c2 [0x69], .other 0x1d4c6 0x1d4ce [0x71], .each 0x1d4d0 0x1d4e9 [0x61],
   .each 0x1d4ea 0x1d503 [0x61], .each 0x1d504 0x1d505 [0x61], .each 0x1d507 0x1d50a [0x64],
   .each 0x1d50d 0x1d514 [0x6a], .each 0x1d516 0x1d51c [0x73], .each 0x1d51e 0x1d537 [0x61],
   .each 0x1d538 0x1d539 [0x61], .each 0x1d53b 0x1d53e [0x64], .each 0x1d540 0x1d544 [0x69],
   .one 0x1d546 [0x6f], .each 0x1d54a 0x1d550 [0x73], .each 0x1d552 0x1d56b [0x61],
   .each 0x1d56c 0x1d585 [0x61], .each 0x1d586 0x1d59f [0x61], .each 0x1d5a0 0x1d5b9 [0x61],
   .each 0x1d5ba 0x1d5d3 [0x61], .each 0x1d5d4 0x1d5ed [0x61], .each 0x1d5ee 0x1d607 [0x61],
   .each 0x1d608 0x1d621 [0x61], .each 0x1d622 0x1d63b [0x61], .each 0x1d63c 0x1d655 [0x61],
   .each 0x1d656 0x1d66f [0x61], .each 0x1d670 0x1d689 [0x61], .each 0x1d68a 0x1d6a3 [0x61],
   .one 0x1d6a4 [0x131], .one 0x1d6a5 [0x237], .each 0x1d6a8 0x1d6b8 [0x3b1], .one 0x1d6b9 [0x3b8],
   .each 0x1d6ba 0x1d6c0 [0x3c3], .one 0x1d6c1 [0x2207], .each 0x1d6c2 0x1d6d2 [0x3b1],
   .same 0x1d6d3 0x1d6d4 [0x3c3], .each 0x1d6d5 0x1d6da [0x3c4], .one 0x1d6db [0x2202],
   .one 0x1d6dc [0x3b5], .one 0x1d6dd [0x3b8], .one 0x1d6de [0x3ba], .one 0x1d6df [0x3c6],
   .one 0x1d6e0 [0x3c1], .one 0x1d6e1 [0x3c0], .each 0x1d6e2 0x1d6f2 [0x3b1], .one 0x1d6f3 [0x3b8],
   .each 0x1d6f4 0x1d6fa [0x3c3], .one 0x1d6fb [0x2207], .each 0x1d6fc 0x1d70c [0x3b1],
   .same 0x1d70d 0x1d70e [0x3c3], .each 0x1d70f 0x1d714 [0x3c4], .one 0x1d715 [0x2202],
   .one 0x1d716 [0x3b5], .one 0x1d717 [0x3b8], .one 0x1d718 [0x3ba], .one 0x1d719 [0x3c6],
   .one 0x1d71a [0x3c1], .one 0x1d71b [0x3c0], .each 0x1d71c 0x1d72c [0x3b1], .one 0x1d72d [0x3b8],
   .each 0x1d72e 0x1d734 [0x3c3], .one 0x1d735 [0x2207], .each 0x1d736 0x1d746 [0x3b1],
   .same 0x1d747 0x1d748 [0x3c3], .each 0x1d749 0x1d74e [0x3c4], .one 0x1d74f [0x2202],
   .one 0x1d750 [0x3b5], .one 0x1d751 [0x3b8], .one 0x1d752 [0x3ba], .one 0x1d753 [0x3c6],
   .one 0x1d754 [0x3c1], .one 0x1d755 [0x3c0], .each 0x1d756 0x1d766 [0x3b1], .one 0x1d767 [0x3b8],
   .each 0x1d768 0x1d76e [0x3c3], .one 0x1d76f [0x2207], .each 0x1d770 0x1d780 [0x3b1],
   .same 0x1d781 0x1d782 [0x3c3], .each 0x1d783 0x1d788 [0x3c4], .one 0x1d789 [0x2202],
   .one 0x1d78a [0x3b5], .one 0x1d78b [0x3b8], .one 0x1d78c [0x3ba], .one 0x1d78d [0x3c6],
   .one 0x1d78e [0x3c1], .one 0x1d78f [0x3c0], .each 0x1d790 0x1d7a0 [0x3b1], .one 0x1d7a1 [0x3b8],
   .each 0x1d7a2 0x1d7a8 [0x3c3], .one 0x1d7a9 [0x2207], .each 0x1d7aa 0x1d7ba [0x3b1],
   .same 0x1d7bb 0x1d7bc [0x3c3], .each 0x1d7bd 0x1d7c2 [0x3c4], .one 0x1d7c3 [0x2202],
   .one 0x1d7c4 [0x3b5], .one 0x1d7c5 [0x3b8], .one 0x1d7c6 [0x3ba], .one 0x1d7c7 [0x3c6],
   .one 0x1d7c8 [0x3c1], .one 0x1d7c9 [0x3c0], .same 0x1d7ca 0x1d7cb [0x3dd],
   .each 0x1d7ce 0x1d7d7 [0x30], .each 0x1d7d8 0x1d7e1 [0x30], .each 0x1d7e2 0x1d7eb [0x30],
   .each 0x1d7ec 0x1d7f5 [0x30], .each 0x1d7f6 0x1d7ff [0x30], .each 0x1e030 0x1e038 [0x430],
   .each 0x1e039 0x1e03b [0x43a], .each 0x1e03c 0x1e046 [0x43e], .one 0x1e047 [0x44b],
   .each 0x1e048 0x1e049 [0x44d], .one 0x1e04a [0xa689], .one 0x1e04b [0x4d9], .one 0x1e04c [0x456],
   .one 0x1e04d [0x458], .one 0x1e04e [0x4e9], .one 0x1e04f [0x4af], .one 0x1e050 [0x4cf],
   .each 0x1e051 0x1e059 [0x430], .each 0x1e05a 0x1e05b [0x43a], .each 0x1e05c 0x1e05d [0x43e],
   .one 0x1e05e [0x441], .each 0x1e05f 0x1e064 [0x443], .each 0x1e065 0x1e066 [0x44a],
   .one 0x1e067 [0x491], .one 0x1e068 [0x456], .one 0x1e069 [0x455], .one 0x1e06a [0x45f],
   .one 0x1e06b [0x4ab], .one 0x1e06c [0xa651], .one 0x1e06d [0x4b1],
   .each 0x1e900 0x1e921 [0x1e922], .each 0x1ee00 0x1ee01 [0x627], .one 0x1ee02 [0x62c],
   .one 0x1ee03 [0x62f], .one 0x1ee05 [0x648], .one 0x1ee06 [0x632], .one 0x1ee07 [0x62d],
   .one 0x1ee08 [0x637], .one 0x1ee09 [0x64a], .each 0x1ee0a 0x1ee0d [0x643], .one 0x1ee0e [0x633],
   .one 0x1ee0f [0x639], .one 0x1ee10 [0x641], .one 0x1ee11 [0x635], .one 0x1ee12 [0x642],
   .one 0x1ee13 [0x631], .one 0x1ee14 [0x634], .each 0x1ee15 0x1ee16 [0x62a], .one 0x1ee17 [0x62e],
   .one 0x1ee18 [0x630], .one 0x1ee19 [0x636], .one 0x1ee1a [0x638], .one 0x1ee1b [0x63a],
   .one 0x1ee1c [0x66e], .one 0x1ee1d [0x6ba], .one 0x1ee1e [0x6a1], .one 0x1ee1f [0x66f],
   .one 0x1ee21 [0x628], .one 0x1ee22 [0x62c], .one 0x1ee24 [0x647], .one 0x1ee27 [0x62d],
   .one 0x1ee29 [0x64a], .each 0x1ee2a 0x1ee2d [0x643], .one 0x1ee2e [0x633], .one 0x1ee2f [0x639],
   .one 0x1ee30 [0x641], .one 0x1ee31 [0x635], .one 0x1ee32 [0x642], .one 0x1ee34 [0x634],
   .each 0x1ee35 0x1ee36 [0x62a], .one 0x1ee37 [0x62e], .one 0x1ee39 [0x636], .one 0x1ee3b [0x63a],
   .one 0x1ee42 [0x62c], .one 0x1ee47 [0x62d], .one 0x1ee49 [0x64a], .other 0x1ee4b 0x1ee4d [0x644],
   .one 0x1ee4e [0x633], .one 0x1ee4f [0x639], .one 0x1ee51 [0x635], .one 0x1ee52 [0x642],
   .one 0x1ee54 [0x634], .one 0x1ee57 [0x62e], .one 0x1ee59 [0x636], .one 0x1ee5b [0x63a],
   .one 0x1ee5d [0x6ba], .one 0x1ee5f [0x66f], .one 0x1ee61 [0x628], .one 0x1ee62 [0x62c],
   .one 0x1ee64 [0x647], .one 0x1ee67 [0x62d], .one 0x1ee68 [0x637], .one 0x1ee69 [0x64a],
   .other 0x1ee6a 0x1ee6c [0x643], .one 0x1ee6d [0x646], .one 0x1ee6e [0x633], .one 0x1ee6f [0x639],
   .one 0x1ee70 [0x641], .one 0x1ee71 [0x635], .one 0x1ee72 [0x642], .one 0x1ee74 [0x634],
   .each 0x1ee75 0x1ee76 [0x62a], .one 0x1ee77 [0x62e], .one 0x1ee79 [0x636], .one 0x1ee7a [0x638],
   .one 0x1ee7b [0x63a], .one 0x1ee7c [0x66e], .one 0x1ee7e [0x6a1], .each 0x1ee80 0x1ee81 [0x627],
   .one 0x1ee82 [0x62c], .one 0x1ee83 [0x62f], .each 0x1ee84 0x1ee85 [0x647], .one 0x1ee86 [0x632],
   .one 0x1ee87 [0x62d], .one 0x1ee88 [0x637], .one 0x1ee89 [0x64a], .each 0x1ee8b 0x1ee8d [0x644],
   .one 0x1ee8e [0x633], .one 0x1ee8f [0x639], .one 0x1ee90 [0x641], .one 0x1ee91 [0x635],
   .one 0x1ee92 [0x642], .one 0x1ee93 [0x631], .one 0x1ee94 [0x634], .each 0x1ee95 0x1ee96 [0x62a],
   .one 0x1ee97 [0x62e], .one 0x1ee98 [0x630], .one 0x1ee99 [0x636], .one 0x1ee9a [0x638],
   .one 0x1ee9b [0x63a], .one 0x1eea1 [0x628], .one 0x1eea2 [0x62c], .one 0x1eea3 [0x62f],
   .one 0x1eea5 [0x648], .one 0x1eea6 [0x632], .one 0x1eea7 [0x62d], .one 0x1eea8 [0x637],
   .one 0x1eea9 [0x64a], .each 0x1eeab 0x1eead [0x644], .one 0x1eeae [0x633], .one 0x1eeaf [0x639],
   .one 0x1eeb0 [0x641], .one 0x1eeb1 [0x635], .one 0x1eeb2 [0x642], .one 0x1eeb3 [0x631],
   .one 0x1eeb4 [0x634], .each 0x1eeb5 0x1eeb6 [0x62a], .one 0x1eeb7 [0x62e], .one 0x1eeb8 [0x630],
   .one 0x1eeb9 [0x636], .one 0x1eeba [0x638], .one 0x1eebb [0x63a], .one 0x1f101 [0x30, 0x2c],
   .one 0x1f102 [0x31, 0x2c], .one 0x1f103 [0x32, 0x2c], .one 0x1f104 [0x33, 0x2c],
   .one 0x1f105 [0x34, 0x2c], .one 0x1f106 [0x35, 0x2c], .one 0x1f107 [0x36, 0x2c],
   .one 0x1f108 [0x37, 0x2c], .one 0x1f109 [0x38, 0x2c], .one 0x1f10a [0x39, 0x2c],
   .one 0x1f110 [0x28, 0x61, 0x29], .one 0x1f111 [0x28, 0x62, 0x29],
   .one 0x1f112 [0x28, 0x63, 0x29], .one 0x1f113 [0x28, 0x64, 0x29],
   .one 0x1f114 [0x28, 0x65, 0x29], .one 0x1f115 [0x28, 0x66, 0x29],
   .one 0x1f116 [0x28, 0x67, 0x29], .one 0x1f117 [0x28, 0x68, 0x29],
   .one 0x1f118 [0x28, 0x69, 0x29], .one 0x1f119 [0x28, 0x6a, 0x29],
   .one 0x1f11a [0x28, 0x6b, 0x29], .one 0x1f11b [0x28, 0x6c, 0x29],
   .one 0x1f11c [0x28, 0x6d, 0x29], .one 0x1f11d [0x28, 0x6e, 0x29],
   .one 0x1f11e [0x28, 0x6f, 0x29], .one 0x1f11f [0x28, 0x70, 0x29],
   .one 0x1f120 [0x28, 0x71, 0x29], .one 0x1f121 [0x28, 0x72, 0x29],
   .one 0x1f122 [0x28, 0x73, 0x29], .one 0x1f123 [0x28, 0x74, 0x29],
   .one 0x1f124 [0x28, 0x75, 0x29], .one 0x1f125 [0x28, 0x76, 0x29],
   .one 0x1f126 [0x28, 0x77, 0x29], .one 0x1f127 [0x28, 0x78, 0x29],
   .one 0x1f128 [0x28, 0x79, 0x29], .one 0x1f129 [0x28, 0x7a, 0x29],
   .one 0x1f12a [0x3014, 0x73, 0x3015], .one 0x1f12b [0x63], .one 0x1f12c [0x72],
   .one 0x1f12d [0x63, 0x64], .one 0x1f12e [0x77, 0x7a], .each 0x1f130 0x1f149 [0x61],
   .one 0x1f14a [0x68, 0x76], .one 0x1f14b [0x6d, 0x76], .one 0x1f14c [0x73, 0x64],
   .one 0x1f14d [0x73, 0x73], .one 0x1f14e [0x70, 0x70, 0x76], .one 0x1f14f [0x77, 0x63],
   .one 0x1f16a [0x6d, 0x63], .one 0x1f16b [0x6d, 0x64], .one 0x1f16c [0x6d, 0x72],
   .one 0x1f190 [0x64, 0x6a], .one 0x1f200 [0x307b, 0x304b], .one 0x1f201 [0x30b3, 0x30b3],
   .one 0x1f202 [0x30b5], .one 0x1f210 [0x624b], .one 0x1f211 [0x5b57], .one 0x1f212 [0x53cc],
   .one 0x1f213 [0x30c7], .one 0x1f214 [0x4e8c], .one 0x1f215 [0x591a], .one 0x1f216 [0x89e3],
   .one 0x1f217 [0x5929], .one 0x1f218 [0x4ea4], .one 0x1f219 [0x6620], .one 0x1f21a [0x7121],
   .one 0x1f21b [0x6599], .one 0x1f21c [0x524d], .one 0x1f21d [0x5f8c], .one 0x1f21e [0x518d],
   .one 0x1f21f [0x65b0], .one 0x1f220 [0x521d], .one 0x1f221 [0x7d42], .one 0x1f222 [0x751f],
   .one 0x1f223 [0x8ca9], .one 0x1f224 [0x58f0], .one 0x1f225 [0x5439], .one 0x1f226 [0x6f14],
   .one 0x1f227 [0x6295], .one 0x1f228 [0x6355], .one 0x1f229 [0x4e00], .one 0x1f22a [0x4e09],
   .one 0x1f22b [0x904a], .one 0x1f22c [0x5de6], .one 0x1f22d [0x4e2d], .one 0x1f22e [0x53f3],
   .one 0x1f22f [0x6307], .one 0x1f230 [0x8d70], .one 0x1f231 [0x6253], .one 0x1f232 [0x7981],
   .one 0x1f233 [0x7a7a], .one 0x1f234 [0x5408], .one 0x1f235 [0x6e80], .one 0x1f236 [0x6709],
   .one 0x1f237 [0x6708], .one 0x1f238 [0x7533], .one 0x1f239 [0x5272], .one 0x1f23a [0x55b6],
   .one 0x1f23b [0x914d], .one 0x1f240 [0x3014, 0x672c, 0x3015],
   .one 0x1f241 [0x3014, 0x4e09, 0x3015], .one 0x1f242 [0x3014, 0x4e8c, 0x3015],
   .one 0x1f243 [0x3014, 0x5b89, 0x3015], .one 0x1f244 [0x3014, 0x70b9, 0x3015],
   .one 0x1f245 [0x3014, 0x6253, 0x3015], .one 0x1f246 [0x3014, 0x76d7, 0x3015],
   .one 0x1f247 [0x3014, 0x52dd, 0x3015], .one 0x1f248 [0x3014, 0x6557, 0x3015],
   .one 0x1f250 [0x5f97], .one 0x1f251 [0x53ef], .each 0x1fbf0 0x1fbf9 [0x30]]

/-- Of other forms of ideographs. -/
def variants : List Row :=
  [.one 0x2f800 [0x4e3d], .one 0x2f801 [0x4e38], .one 0x2f802 [0x4e41], .one 0x2f803 [0x20122],
   .one 0x2f804 [0x4f60], .one 0x2f805 [0x4fae], .one 0x2f806 [0x4fbb], .one 0x2f807 [0x5002],
   .one 0x2f808 [0x507a], .one 0x2f809 [0x5099], .one 0x2f80a [0x50e7], .one 0x2f80b [0x50cf],
   .one 0x2f80c [0x349e], .one 0x2f80d [0x2063a], .one 0x2f80e [0x514d], .one 0x2f80f [0x5154],
   .one 0x2f810 [0x5164], .one 0x2f811 [0x5177], .one 0x2f812 [0x2051c], .one 0x2f813 [0x34b9],
   .one 0x2f814 [0x5167], .one 0x2f815 [0x518d], .one 0x2f816 [0x2054b], .one 0x2f817 [0x5197],
   .one 0x2f818 [0x51a4], .one 0x2f819 [0x4ecc], .one 0x2f81a [0x51ac], .one 0x2f81b [0x51b5],
   .one 0x2f81c [0x291df], .one 0x2f81d [0x51f5], .one 0x2f81e [0x5203], .one 0x2f81f [0x34df],
   .one 0x2f820 [0x523b], .one 0x2f821 [0x5246], .one 0x2f822 [0x5272], .one 0x2f823 [0x5277],
   .one 0x2f824 [0x3515], .one 0x2f825 [0x52c7], .one 0x2f826 [0x52c9], .one 0x2f827 [0x52e4],
   .one 0x2f828 [0x52fa], .each 0x2f829 0x2f82a [0x5305], .one 0x2f82b [0x5317],
   .one 0x2f82c [0x5349], .one 0x2f82d [0x5351], .one 0x2f82e [0x535a], .one 0x2f82f [0x5373],
   .other 0x2f830 0x2f832 [0x537d], .same 0x2f831 0x2f833 [0x537f], .one 0x2f834 [0x20a2c],
   .one 0x2f835 [0x7070], .one 0x2f836 [0x53ca], .one 0x2f837 [0x53df], .one 0x2f838 [0x20b63],
   .one 0x2f839 [0x53eb], .one 0x2f83a [0x53f1], .one 0x2f83b [0x5406], .one 0x2f83c [0x549e],
   .one 0x2f83d [0x5438], .one 0x2f83e [0x5448], .one 0x2f83f [0x5468], .one 0x2f840 [0x54a2],
   .one 0x2f841 [0x54f6], .one 0x2f842 [0x5510], .one 0x2f843 [0x5553], .one 0x2f844 [0x5563],
   .same 0x2f845 0x2f846 [0x5584], .one 0x2f847 [0x5599], .one 0x2f848 [0x55ab],
   .one 0x2f849 [0x55b3], .one 0x2f84a [0x55c2], .one 0x2f84b [0x5716], .one 0x2f84c [0x5606],
   .one 0x2f84d [0x5717], .one 0x2f84e [0x5651], .one 0x2f84f [0x5674], .one 0x2f850 [0x5207],
   .one 0x2f851 [0x58ee], .one 0x2f852 [0x57ce], .one 0x2f853 [0x57f4], .one 0x2f854 [0x580d],
   .one 0x2f855 [0x578b], .one 0x2f856 [0x5832], .one 0x2f857 [0x5831], .one 0x2f858 [0x58ac],
   .one 0x2f859 [0x214e4], .one 0x2f85a [0x58f2], .one 0x2f85b [0x58f7], .one 0x2f85c [0x5906],
   .one 0x2f85d [0x591a], .one 0x2f85e [0x5922], .one 0x2f85f [0x5962], .one 0x2f860 [0x216a8],
   .one 0x2f861 [0x216ea], .one 0x2f862 [0x59ec], .one 0x2f863 [0x5a1b], .one 0x2f864 [0x5a27],
   .one 0x2f865 [0x59d8], .one 0x2f866 [0x5a66], .one 0x2f867 [0x36ee], .one 0x2f868 [0x36fc],
   .one 0x2f869 [0x5b08], .same 0x2f86a 0x2f86b [0x5b3e], .one 0x2f86c [0x219c8],
   .one 0x2f86d [0x5bc3], .one 0x2f86e [0x5bd8], .one 0x2f86f [0x5be7], .one 0x2f870 [0x5bf3],
   .one 0x2f871 [0x21b18], .one 0x2f872 [0x5bff], .one 0x2f873 [0x5c06], .one 0x2f874 [0x5f53],
   .one 0x2f875 [0x5c22], .one 0x2f876 [0x3781], .one 0x2f877 [0x5c60], .one 0x2f878 [0x5c6e],
   .one 0x2f879 [0x5cc0], .one 0x2f87a [0x5c8d], .other 0x2f87b 0x2f87d [0x21de4],
   .one 0x2f87c [0x5d43], .one 0x2f87e [0x5d6e], .one 0x2f87f [0x5d6b], .one 0x2f880 [0x5d7c],
   .each 0x2f881 0x2f882 [0x5de1], .one 0x2f883 [0x382f], .one 0x2f884 [0x5dfd],
   .one 0x2f885 [0x5e28], .one 0x2f886 [0x5e3d], .one 0x2f887 [0x5e69], .one 0x2f888 [0x3862],
   .one 0x2f889 [0x22183], .one 0x2f88a [0x387c], .one 0x2f88b [0x5eb0], .one 0x2f88c [0x5eb3],
   .one 0x2f88d [0x5eb6], .one 0x2f88e [0x5eca], .one 0x2f88f [0x2a392], .one 0x2f890 [0x5efe],
   .same 0x2f891 0x2f892 [0x22331], .one 0x2f893 [0x8201], .same 0x2f894 0x2f895 [0x5f22],
   .one 0x2f896 [0x38c7], .one 0x2f897 [0x232b8], .one 0x2f898 [0x261da], .one 0x2f899 [0x5f62],
   .one 0x2f89a [0x5f6b], .one 0x2f89b [0x38e3], .one 0x2f89c [0x5f9a], .one 0x2f89d [0x5fcd],
   .one 0x2f89e [0x5fd7], .one 0x2f89f [0x5ff9], .one 0x2f8a0 [0x6081], .one 0x2f8a1 [0x393a],
   .one 0x2f8a2 [0x391c], .one 0x2f8a3 [0x6094], .one 0x2f8a4 [0x226d4], .one 0x2f8a5 [0x60c7],
   .one 0x2f8a6 [0x6148], .one 0x2f8a7 [0x614c], .one 0x2f8a8 [0x614e], .one 0x2f8a9 [0x614c],
   .one 0x2f8aa [0x617a], .one 0x2f8ab [0x618e], .one 0x2f8ac [0x61b2], .one 0x2f8ad [0x61a4],
   .one 0x2f8ae [0x61af], .one 0x2f8af [0x61de], .one 0x2f8b0 [0x61f2], .one 0x2f8b1 [0x61f6],
   .one 0x2f8b2 [0x6210], .one 0x2f8b3 [0x621b], .one 0x2f8b4 [0x625d], .one 0x2f8b5 [0x62b1],
   .one 0x2f8b6 [0x62d4], .one 0x2f8b7 [0x6350], .one 0x2f8b8 [0x22b0c], .one 0x2f8b9 [0x633d],
   .one 0x2f8ba [0x62fc], .one 0x2f8bb [0x6368], .one 0x2f8bc [0x6383], .one 0x2f8bd [0x63e4],
   .one 0x2f8be [0x22bf1], .one 0x2f8bf [0x6422], .one 0x2f8c0 [0x63c5], .one 0x2f8c1 [0x63a9],
   .one 0x2f8c2 [0x3a2e], .one 0x2f8c3 [0x6469], .one 0x2f8c4 [0x647e], .one 0x2f8c5 [0x649d],
   .one 0x2f8c6 [0x6477], .one 0x2f8c7 [0x3a6c], .one 0x2f8c8 [0x654f], .one 0x2f8c9 [0x656c],
   .one 0x2f8ca [0x2300a], .one 0x2f8cb [0x65e3], .one 0x2f8cc [0x66f8], .one 0x2f8cd [0x6649],
   .one 0x2f8ce [0x3b19], .one 0x2f8cf [0x6691], .one 0x2f8d0 [0x3b08], .one 0x2f8d1 [0x3ae4],
   .one 0x2f8d2 [0x5192], .one 0x2f8d3 [0x5195], .one 0x2f8d4 [0x6700], .one 0x2f8d5 [0x669c],
   .one 0x2f8d6 [0x80ad], .one 0x2f8d7 [0x43d9], .one 0x2f8d8 [0x6717], .one 0x2f8d9 [0x671b],
   .one 0x2f8da [0x6721], .one 0x2f8db [0x675e], .one 0x2f8dc [0x6753], .one 0x2f8dd [0x233c3],
   .one 0x2f8de [0x3b49], .one 0x2f8df [0x67fa], .one 0x2f8e0 [0x6785], .one 0x2f8e1 [0x6852],
   .one 0x2f8e2 [0x6885], .one 0x2f8e3 [0x2346d], .one 0x2f8e4 [0x688e], .one 0x2f8e5 [0x681f],
   .one 0x2f8e6 [0x6914], .one 0x2f8e7 [0x3b9d], .one 0x2f8e8 [0x6942], .one 0x2f8e9 [0x69a3],
   .one 0x2f8ea [0x69ea], .one 0x2f8eb [0x6aa8], .one 0x2f8ec [0x236a3], .one 0x2f8ed [0x6adb],
   .one 0x2f8ee [0x3c18], .one 0x2f8ef [0x6b21], .one 0x2f8f0 [0x238a7], .one 0x2f8f1 [0x6b54],
   .one 0x2f8f2 [0x3c4e], .one 0x2f8f3 [0x6b72], .one 0x2f8f4 [0x6b9f],
   .each 0x2f8f5 0x2f8f6 [0x6bba], .one 0x2f8f7 [0x23a8d], .one 0x2f8f8 [0x21d0b],
   .one 0x2f8f9 [0x23afa], .one 0x2f8fa [0x6c4e], .one 0x2f8fb [0x23cbc], .one 0x2f8fc [0x6cbf],
   .one 0x2f8fd [0x6ccd], .one 0x2f8fe [0x6c67], .one 0x2f8ff [0x6d16], .one 0x2f900 [0x6d3e],
   .one 0x2f901 [0x6d77], .one 0x2f902 [0x6d41], .one 0x2f903 [0x6d69], .one 0x2f904 [0x6d78],
   .one 0x2f905 [0x6d85], .one 0x2f906 [0x23d1e], .one 0x2f907 [0x6d34], .one 0x2f908 [0x6e2f],
   .one 0x2f909 [0x6e6e], .one 0x2f90a [0x3d33], .one 0x2f90b [0x6ecb], .one 0x2f90c [0x6ec7],
   .one 0x2f90d [0x23ed1], .one 0x2f90e [0x6df9], .one 0x2f90f [0x6f6e], .one 0x2f910 [0x23f5e],
   .one 0x2f911 [0x23f8e], .one 0x2f912 [0x6fc6], .one 0x2f913 [0x7039], .one 0x2f914 [0x701e],
   .one 0x2f915 [0x701b], .one 0x2f916 [0x3d96], .one 0x2f917 [0x704a], .one 0x2f918 [0x707d],
   .one 0x2f919 [0x7077], .one 0x2f91a [0x70ad], .one 0x2f91b [0x20525], .one 0x2f91c [0x7145],
   .one 0x2f91d [0x24263], .one 0x2f91e [0x719c], .one 0x2f91f [0x243ab], .one 0x2f920 [0x7228],
   .one 0x2f921 [0x7235], .one 0x2f922 [0x7250], .one 0x2f923 [0x24608], .one 0x2f924 [0x7280],
   .one 0x2f925 [0x7295], .one 0x2f926 [0x24735], .one 0x2f927 [0x24814], .one 0x2f928 [0x737a],
   .one 0x2f929 [0x738b], .one 0x2f92a [0x3eac], .one 0x2f92b [0x73a5],
   .same 0x2f92c 0x2f92d [0x3eb8], .one 0x2f92e [0x7447], .one 0x2f92f [0x745c],
   .one 0x2f930 [0x7471], .one 0x2f931 [0x7485], .one 0x2f932 [0x74ca], .one 0x2f933 [0x3f1b],
   .one 0x2f934 [0x7524], .one 0x2f935 [0x24c36], .one 0x2f936 [0x753e], .one 0x2f937 [0x24c92],
   .one 0x2f938 [0x7570], .one 0x2f939 [0x2219f], .one 0x2f93a [0x7610], .one 0x2f93b [0x24fa1],
   .one 0x2f93c [0x24fb8], .one 0x2f93d [0x25044], .one 0x2f93e [0x3ffc], .one 0x2f93f [0x4008],
   .one 0x2f940 [0x76f4], .one 0x2f941 [0x250f3], .one 0x2f942 [0x250f2], .one 0x2f943 [0x25119],
   .one 0x2f944 [0x25133], .each 0x2f945 0x2f946 [0x771e], .one 0x2f947 [0x771f],
   .one 0x2f948 [0x774a], .one 0x2f949 [0x4039], .one 0x2f94a [0x778b], .one 0x2f94b [0x4046],
   .one 0x2f94c [0x4096], .one 0x2f94d [0x2541d], .one 0x2f94e [0x784e], .one 0x2f94f [0x788c],
   .one 0x2f950 [0x78cc], .one 0x2f951 [0x40e3], .one 0x2f952 [0x25626], .one 0x2f953 [0x7956],
   .one 0x2f954 [0x2569a], .one 0x2f955 [0x256c5], .one 0x2f956 [0x798f], .one 0x2f957 [0x79eb],
   .one 0x2f958 [0x412f], .one 0x2f959 [0x7a40], .one 0x2f95a [0x7a4a], .one 0x2f95b [0x7a4f],
   .one 0x2f95c [0x2597c], .same 0x2f95d 0x2f95e [0x25aa7], .one 0x2f95f [0x7aee],
   .one 0x2f960 [0x4202], .one 0x2f961 [0x25bab], .one 0x2f962 [0x7bc6], .one 0x2f963 [0x7bc9],
   .one 0x2f964 [0x4227], .one 0x2f965 [0x25c80], .one 0x2f966 [0x7cd2], .one 0x2f967 [0x42a0],
   .one 0x2f968 [0x7ce8], .one 0x2f969 [0x7ce3], .one 0x2f96a [0x7d00], .one 0x2f96b [0x25f86],
   .one 0x2f96c [0x7d63], .one 0x2f96d [0x4301], .one 0x2f96e [0x7dc7], .one 0x2f96f [0x7e02],
   .one 0x2f970 [0x7e45], .one 0x2f971 [0x4334], .one 0x2f972 [0x26228], .one 0x2f973 [0x26247],
   .one 0x2f974 [0x4359], .one 0x2f975 [0x262d9], .one 0x2f976 [0x7f7a], .one 0x2f977 [0x2633e],
   .one 0x2f978 [0x7f95], .one 0x2f979 [0x7ffa], .one 0x2f97a [0x8005], .one 0x2f97b [0x264da],
   .one 0x2f97c [0x26523], .one 0x2f97d [0x8060], .one 0x2f97e [0x265a8], .one 0x2f97f [0x8070],
   .one 0x2f980 [0x2335f], .one 0x2f981 [0x43d5], .one 0x2f982 [0x80b2], .one 0x2f983 [0x8103],
   .one 0x2f984 [0x440b], .one 0x2f985 [0x813e], .one 0x2f986 [0x5ab5], .one 0x2f987 [0x267a7],
   .one 0x2f988 [0x267b5], .one 0x2f989 [0x23393], .one 0x2f98a [0x2339c], .one 0x2f98b [0x8201],
   .one 0x2f98c [0x8204], .one 0x2f98d [0x8f9e], .one 0x2f98e [0x446b], .one 0x2f98f [0x8291],
   .one 0x2f990 [0x828b], .one 0x2f991 [0x829d], .one 0x2f992 [0x52b3], .one 0x2f993 [0x82b1],
   .one 0x2f994 [0x82b3], .one 0x2f995 [0x82bd], .one 0x2f996 [0x82e6], .one 0x2f997 [0x26b3c],
   .one 0x2f998 [0x82e5], .one 0x2f999 [0x831d], .one 0x2f99a [0x8363], .one 0x2f99b [0x83ad],
   .one 0x2f99c [0x8323], .one 0x2f99d [0x83bd], .one 0x2f99e [0x83e7], .one 0x2f99f [0x8457],
   .one 0x2f9a0 [0x8353], .one 0x2f9a1 [0x83ca], .one 0x2f9a2 [0x83cc], .one 0x2f9a3 [0x83dc],
   .one 0x2f9a4 [0x26c36], .one 0x2f9a5 [0x26d6b], .one 0x2f9a6 [0x26cd5], .one 0x2f9a7 [0x452b],
   .one 0x2f9a8 [0x84f1], .one 0x2f9a9 [0x84f3], .one 0x2f9aa [0x8516], .one 0x2f9ab [0x273ca],
   .one 0x2f9ac [0x8564], .one 0x2f9ad [0x26f2c], .one 0x2f9ae [0x455d], .one 0x2f9af [0x4561],
   .one 0x2f9b0 [0x26fb1], .one 0x2f9b1 [0x270d2], .one 0x2f9b2 [0x456b], .one 0x2f9b3 [0x8650],
   .one 0x2f9b4 [0x865c], .one 0x2f9b5 [0x8667], .one 0x2f9b6 [0x8669], .one 0x2f9b7 [0x86a9],
   .one 0x2f9b8 [0x8688], .one 0x2f9b9 [0x870e], .one 0x2f9ba [0x86e2], .one 0x2f9bb [0x8779],
   .one 0x2f9bc [0x8728], .one 0x2f9bd [0x876b], .one 0x2f9be [0x8786], .one 0x2f9bf [0x45d7],
   .one 0x2f9c0 [0x87e1], .one 0x2f9c1 [0x8801], .one 0x2f9c2 [0x45f9], .one 0x2f9c3 [0x8860],
   .one 0x2f9c4 [0x8863], .one 0x2f9c5 [0x27667], .one 0x2f9c6 [0x88d7], .one 0x2f9c7 [0x88de],
   .one 0x2f9c8 [0x4635], .one 0x2f9c9 [0x88fa], .one 0x2f9ca [0x34bb], .one 0x2f9cb [0x278ae],
   .one 0x2f9cc [0x27966], .one 0x2f9cd [0x46be], .one 0x2f9ce [0x46c7], .one 0x2f9cf [0x8aa0],
   .one 0x2f9d0 [0x8aed], .one 0x2f9d1 [0x8b8a], .one 0x2f9d2 [0x8c55], .one 0x2f9d3 [0x27ca8],
   .one 0x2f9d4 [0x8cab], .one 0x2f9d5 [0x8cc1], .one 0x2f9d6 [0x8d1b], .one 0x2f9d7 [0x8d77],
   .one 0x2f9d8 [0x27f2f], .one 0x2f9d9 [0x20804], .one 0x2f9da [0x8dcb], .one 0x2f9db [0x8dbc],
   .one 0x2f9dc [0x8df0], .one 0x2f9dd [0x208de], .one 0x2f9de [0x8ed4], .one 0x2f9df [0x8f38],
   .one 0x2f9e0 [0x285d2], .one 0x2f9e1 [0x285ed], .one 0x2f9e2 [0x9094], .one 0x2f9e3 [0x90f1],
   .one 0x2f9e4 [0x9111], .one 0x2f9e5 [0x2872e], .one 0x2f9e6 [0x911b], .one 0x2f9e7 [0x9238],
   .each 0x2f9e8 0x2f9e9 [0x92d7], .one 0x2f9ea [0x927c], .one 0x2f9eb [0x93f9],
   .one 0x2f9ec [0x9415], .one 0x2f9ed [0x28bfa], .one 0x2f9ee [0x958b], .one 0x2f9ef [0x4995],
   .one 0x2f9f0 [0x95b7], .one 0x2f9f1 [0x28d77], .one 0x2f9f2 [0x49e6], .one 0x2f9f3 [0x96c3],
   .one 0x2f9f4 [0x5db2], .one 0x2f9f5 [0x9723], .one 0x2f9f6 [0x29145], .one 0x2f9f7 [0x2921a],
   .one 0x2f9f8 [0x4a6e], .one 0x2f9f9 [0x4a76], .one 0x2f9fa [0x97e0], .one 0x2f9fb [0x2940a],
   .one 0x2f9fc [0x4ab2], .one 0x2f9fd [0x29496], .same 0x2f9fe 0x2f9ff [0x980b],
   .one 0x2fa00 [0x9829], .one 0x2fa01 [0x295b6], .one 0x2fa02 [0x98e2], .one 0x2fa03 [0x4b33],
   .one 0x2fa04 [0x9929], .one 0x2fa05 [0x99a7], .one 0x2fa06 [0x99c2], .one 0x2fa07 [0x99fe],
   .one 0x2fa08 [0x4bce], .one 0x2fa09 [0x29b30], .one 0x2fa0a [0x9b12], .one 0x2fa0b [0x9c40],
   .one 0x2fa0c [0x9cfd], .one 0x2fa0d [0x4cce], .one 0x2fa0e [0x4ced], .one 0x2fa0f [0x9d67],
   .one 0x2fa10 [0x2a0ce], .one 0x2fa11 [0x4cf8], .one 0x2fa12 [0x2a105], .one 0x2fa13 [0x2a20e],
   .one 0x2fa14 [0x2a291], .one 0x2fa15 [0x9ebb], .one 0x2fa16 [0x4d56], .one 0x2fa17 [0x9ef9],
   .one 0x2fa18 [0x9efe], .one 0x2fa19 [0x9f05], .one 0x2fa1a [0x9f0f], .one 0x2fa1b [0x9f16],
   .one 0x2fa1c [0x9f3b], .one 0x2fa1d [0x2a600]]

/-- Of the characters that leave no trace. -/
def ignored : List Row :=
  [.one 0xad [], .one 0x34f [], .same 0x115f 0x1160 [], .same 0x17b4 0x17b5 [],
   .same 0x180b 0x180f [], .one 0x200b [], .same 0x2060 0x2064 [], .same 0x206a 0x206f [],
   .one 0x3164 [], .same 0xfe00 0xfe0f [], .one 0xfeff [], .one 0xffa0 [], .same 0x1bca0 0x1bca3 [],
   .same 0x1d173 0x1d17a [], .same 0xe0100 0xe01ef []]

/-- What becomes of the characters beyond ASCII that do not stay as they are. -/
def rows : List Row :=
  letters ++ signs ++ framed ++ doubles ++ ligatures ++ widths ++ fonts ++ variants ++ ignored

/-- The characters that no name may contain. -/
def refused : List (Nat × Nat) :=
  [(0x80, 0x9f), (0x378, 0x379), (0x380, 0x383), (0x38b, 0x38b), (0x38d, 0x38d), (0x3a2, 0x3a2),
   (0x530, 0x530), (0x557, 0x558), (0x58b, 0x58c), (0x590, 0x590), (0x5c8, 0x5cf), (0x5eb, 0x5ee),
   (0x5f5, 0x605), (0x61c, 0x61c), (0x6dd, 0x6dd), (0x70e, 0x70f), (0x74b, 0x74c), (0x7b2, 0x7bf),
   (0x7fb, 0x7fc), (0x82e, 0x82f), (0x83f, 0x83f), (0x85c, 0x85d), (0x85f, 0x85f), (0x86b, 0x86f),
   (0x890, 0x896), (0x8e2, 0x8e2), (0x984, 0x984), (0x98d, 0x98e), (0x991, 0x992), (0x9a9, 0x9a9),
   (0x9b1, 0x9b1), (0x9b3, 0x9b5), (0x9ba, 0x9bb), (0x9c5, 0x9c6), (0x9c9, 0x9ca), (0x9cf, 0x9d6),
   (0x9d8, 0x9db), (0x9de, 0x9de), (0x9e4, 0x9e5), (0x9ff, 0xa00), (0xa04, 0xa04), (0xa0b, 0xa0e),
   (0xa11, 0xa12), (0xa29, 0xa29), (0xa31, 0xa31), (0xa34, 0xa34), (0xa37, 0xa37), (0xa3a, 0xa3b),
   (0xa3d, 0xa3d), (0xa43, 0xa46), (0xa49, 0xa4a), (0xa4e, 0xa50), (0xa52, 0xa58), (0xa5d, 0xa5d),
   (0xa5f, 0xa65), (0xa77, 0xa80), (0xa84, 0xa84), (0xa8e, 0xa8e), (0xa92, 0xa92), (0xaa9, 0xaa9),
   (0xab1, 0xab1), (0xab4, 0xab4), (0xaba, 0xabb), (0xac6, 0xac6), (0xaca, 0xaca), (0xace, 0xacf),
   (0xad1, 0xadf), (0xae4, 0xae5), (0xaf2, 0xaf8), (0xb00, 0xb00), (0xb04, 0xb04), (0xb0d, 0xb0e),
   (0xb11, 0xb12), (0xb29, 0xb29), (0xb31, 0xb31), (0xb34, 0xb34), (0xb3a, 0xb3b), (0xb45, 0xb46),
   (0xb49, 0xb4a), (0xb4e, 0xb54), (0xb58, 0xb5b), (0xb5e, 0xb5e), (0xb64, 0xb65), (0xb78, 0xb81),
   (0xb84, 0xb84), (0xb8b, 0xb8d), (0xb91, 0xb91), (0xb96, 0xb98), (0xb9b, 0xb9b), (0xb9d, 0xb9d),
   (0xba0, 0xba2), (0xba5, 0xba7), (0xbab, 0xbad), (0xbba, 0xbbd), (0xbc3, 0xbc5), (0xbc9, 0xbc9),
   (0xbce, 0xbcf), (0xbd1, 0xbd6), (0xbd8, 0xbe5), (0xbfb, 0xbff), (0xc0d, 0xc0d), (0xc11, 0xc11),
   (0xc29, 0xc29), (0xc3a, 0xc3b), (0xc45, 0xc45), (0xc49, 0xc49), (0xc4e, 0xc54), (0xc57, 0xc57),
   (0xc5b, 0xc5b), (0xc5e, 0xc5f), (0xc64, 0xc65), (0xc70, 0xc76), (0xc8d, 0xc8d), (0xc91, 0xc91),
   (0xca9, 0xca9), (0xcb4, 0xcb4), (0xcba, 0xcbb), (0xcc5, 0xcc5), (0xcc9, 0xcc9), (0xcce, 0xcd4),
   (0xcd7, 0xcdb), (0xcdf, 0xcdf), (0xce4, 0xce5), (0xcf0, 0xcf0), (0xcf4, 0xcff), (0xd0d, 0xd0d),
   (0xd11, 0xd11), (0xd45, 0xd45), (0xd49, 0xd49), (0xd50, 0xd53), (0xd64, 0xd65), (0xd80, 0xd80),
   (0xd84, 0xd84), (0xd97, 0xd99), (0xdb2, 0xdb2), (0xdbc, 0xdbc), (0xdbe, 0xdbf), (0xdc7, 0xdc9),
   (0xdcb, 0xdce), (0xdd5, 0xdd5), (0xdd7, 0xdd7), (0xde0, 0xde5), (0xdf0, 0xdf1), (0xdf5, 0xe00),
   (0xe3b, 0xe3e), (0xe5c, 0xe80), (0xe83, 0xe83), (0xe85, 0xe85), (0xe8b, 0xe8b), (0xea4, 0xea4),
   (0xea6, 0xea6), (0xebe, 0xebf), (0xec5, 0xec5), (0xec7, 0xec7), (0xecf, 0xecf), (0xeda, 0xedb),
   (0xee0, 0xeff), (0xf48, 0xf48), (0xf6d, 0xf70), (0xf98, 0xf98), (0xfbd, 0xfbd), (0xfcd, 0xfcd),
   (0xfdb, 0xfff), (0x10c6, 0x10c6), (0x10c8, 0x10cc), (0x10ce, 0x10cf), (0x1249, 0x1249),
   (0x124e, 0x124f), (0x1257, 0x1257), (0x1259, 0x1259), (0x125e, 0x125f), (0x1289, 0x1289),
   (0x128e, 0x128f), (0x12b1, 0x12b1), (0x12b6, 0x12b7), (0x12bf, 0x12bf), (0x12c1, 0x12c1),
   (0x12c6, 0x12c7), (0x12d7, 0x12d7), (0x1311, 0x1311), (0x1316, 0x1317), (0x135b, 0x135c),
   (0x137d, 0x137f), (0x139a, 0x139f), (0x13f6, 0x13f7), (0x13fe, 0x13ff), (0x1680, 0x1680),
   (0x169d, 0x169f), (0x16f9, 0x16ff), (0x1716, 0x171e), (0x1737, 0x173f), (0x1754, 0x175f),
   (0x176d, 0x176d), (0x1771, 0x1771), (0x1774, 0x177f), (0x17de, 0x17df), (0x17ea, 0x17ef),
   (0x17fa, 0x17ff), (0x181a, 0x181f), (0x1879, 0x187f), (0x18ab, 0x18af), (0x18f6, 0x18ff),
   (0x191f, 0x191f), (0x192c, 0x192f), (0x193c, 0x193f), (0x1941, 0x1943), (0x196e, 0x196f),
   (0x1975, 0x197f), (0x19ac, 0x19af), (0x19ca, 0x19cf), (0x19db, 0x19dd), (0x1a1c, 0x1a1d),
   (0x1a5f, 0x1a5f), (0x1a7d, 0x1a7e), (0x1a8a, 0x1a8f), (0x1a9a, 0x1a9f), (0x1aae, 0x1aaf),
   (0x1ade, 0x1adf), (0x1aec, 0x1aff), (0x1b4d, 0x1b4d), (0x1bf4, 0x1bfb), (0x1c38, 0x1c3a),
   (0x1c4a, 0x1c4c), (0x1c8b, 0x1c8f), (0x1cbb, 0x1cbc), (0x1cc8, 0x1ccf), (0x1cfb, 0x1cff),
   (0x1f16, 0x1f17), (0x1f1e, 0x1f1f), (0x1f46, 0x1f47), (0x1f4e, 0x1f4f), (0x1f58, 0x1f58),
   (0x1f5a, 0x1f5a), (0x1f5c, 0x1f5c), (0x1f5e, 0x1f5e), (0x1f7e, 0x1f7f), (0x1fb5, 0x1fb5),
   (0x1fc5, 0x1fc5), (0x1fd4, 0x1fd5), (0x1fdc, 0x1fdc), (0x1ff0, 0x1ff1), (0x1ff5, 0x1ff5),
   (0x1fff, 0x1fff), (0x200e, 0x200f), (0x2024, 0x2026), (0x2028, 0x202e), (0x2065, 0x2069),
   (0x2072, 0x2073), (0x208f, 0x208f), (0x209d, 0x209f), (0x20c2, 0x20cf), (0x20f1, 0x20ff),
   (0x218c, 0x218f), (0x242a, 0x243f), (0x244b, 0x245f), (0x2488, 0x249b), (0x2b74, 0x2b75),
   (0x2cf4, 0x2cf8), (0x2d26, 0x2d26), (0x2d28, 0x2d2c), (0x2d2e, 0x2d2f), (0x2d68, 0x2d6e),
   (0x2d71, 0x2d7e), (0x2d97, 0x2d9f), (0x2da7, 0x2da7), (0x2daf, 0x2daf), (0x2db7, 0x2db7),
   (0x2dbf, 0x2dbf), (0x2dc7, 0x2dc7), (0x2dcf, 0x2dcf), (0x2dd7, 0x2dd7), (0x2ddf, 0x2ddf),
   (0x2e5e, 0x2e7f), (0x2e9a, 0x2e9a), (0x2ef4, 0x2eff), (0x2fd6, 0x2fff), (0x3040, 0x3040),
   (0x3097, 0x3098), (0x3100, 0x3104), (0x3130, 0x3130), (0x318f, 0x318f), (0x31e6, 0x31ef),
   (0x321f, 0x321f), (0x33c2, 0x33c2), (0x33c7, 0x33c7), (0x33d8, 0x33d8), (0xa48d, 0xa48f),
   (0xa4c7, 0xa4cf), (0xa62c, 0xa63f), (0xa6f8, 0xa6ff), (0xa7dd, 0xa7f0), (0xa82d, 0xa82f),
   (0xa83a, 0xa83f), (0xa878, 0xa87f), (0xa8c6, 0xa8cd), (0xa8da, 0xa8df), (0xa954, 0xa95e),
   (0xa97d, 0xa97f), (0xa9ce, 0xa9ce), (0xa9da, 0xa9dd), (0xa9ff, 0xa9ff), (0xaa37, 0xaa3f),
   (0xaa4e, 0xaa4f), (0xaa5a, 0xaa5b), (0xaac3, 0xaada), (0xaaf7, 0xab00), (0xab07, 0xab08),
   (0xab0f, 0xab10), (0xab17, 0xab1f), (0xab27, 0xab27), (0xab2f, 0xab2f), (0xab6c, 0xab6f),
   (0xabee, 0xabef), (0xabfa, 0xabff), (0xd7a4, 0xd7af), (0xd7c7, 0xd7ca), (0xd7fc, 0xf8ff),
   (0xfa6e, 0xfa6f), (0xfada, 0xfaff), (0xfb07, 0xfb12), (0xfb18, 0xfb1c), (0xfb37, 0xfb37),
   (0xfb3d, 0xfb3d), (0xfb3f, 0xfb3f), (0xfb42, 0xfb42), (0xfb45, 0xfb45), (0xfdd0, 0xfdef),
   (0xfe12, 0xfe12), (0xfe19, 0xfe1f), (0xfe30, 0xfe30), (0xfe52, 0xfe53), (0xfe67, 0xfe67),
   (0xfe6c, 0xfe6f), (0xfe75, 0xfe75), (0xfefd, 0xfefe), (0xff00, 0xff00), (0xffbf, 0xffc1),
   (0xffc8, 0xffc9), (0xffd0, 0xffd1), (0xffd8, 0xffd9), (0xffdd, 0xffdf), (0xffe7, 0xffe7),
   (0xffef, 0xffff), (0x1000c, 0x1000c), (0x10027, 0x10027), (0x1003b, 0x1003b), (0x1003e, 0x1003e),
   (0x1004e, 0x1004f), (0x1005e, 0x1007f), (0x100fb, 0x100ff), (0x10103, 0x10106),
   (0x10134, 0x10136), (0x1018f, 0x1018f), (0x1019d, 0x1019f), (0x101a1, 0x101cf),
   (0x101fe, 0x1027f), (0x1029d, 0x1029f), (0x102d1, 0x102df), (0x102fc, 0x102ff),
   (0x10324, 0x1032c), (0x1034b, 0x1034f), (0x1037b, 0x1037f), (0x1039e, 0x1039e),
   (0x103c4, 0x103c7), (0x103d6, 0x103ff), (0x1049e, 0x1049f), (0x104aa, 0x104af),
   (0x104d4, 0x104d7), (0x104fc, 0x104ff), (0x10528, 0x1052f), (0x10564, 0x1056e),
   (0x1057b, 0x1057b), (0x1058b, 0x1058b), (0x10593, 0x10593), (0x10596, 0x10596),
   (0x105a2, 0x105a2), (0x105b2, 0x105b2), (0x105ba, 0x105ba), (0x105bd, 0x105bf),
   (0x105f4, 0x105ff), (0x10737, 0x1073f), (0x10756, 0x1075f), (0x10768, 0x1077f),
   (0x10786, 0x10786), (0x107b1, 0x107b1), (0x107bb, 0x107ff), (0x10806, 0x10807),
   (0x10809, 0x10809), (0x10836, 0x10836), (0x10839, 0x1083b), (0x1083d, 0x1083e),
   (0x10856, 0x10856), (0x1089f, 0x108a6), (0x108b0, 0x108df), (0x108f3, 0x108f3),
   (0x108f6, 0x108fa), (0x1091c, 0x1091e), (0x1093a, 0x1093e), (0x1095a, 0x1097f),
   (0x109b8, 0x109bb), (0x109d0, 0x109d1), (0x10a04, 0x10a04), (0x10a07, 0x10a0b),
   (0x10a14, 0x10a14), (0x10a18, 0x10a18), (0x10a36, 0x10a37), (0x10a3b, 0x10a3e),
   (0x10a49, 0x10a4f), (0x10a59, 0x10a5f), (0x10aa0, 0x10abf), (0x10ae7, 0x10aea),
   (0x10af7, 0x10aff), (0x10b36, 0x10b38), (0x10b56, 0x10b57), (0x10b73, 0x10b77),
   (0x10b92, 0x10b98), (0x10b9d, 0x10ba8), (0x10bb0, 0x10bff), (0x10c49, 0x10c7f),
   (0x10cb3, 0x10cbf), (0x10cf3, 0x10cf9), (0x10d28, 0x10d2f), (0x10d3a, 0x10d3f),
   (0x10d66, 0x10d68), (0x10d86, 0x10d8d), (0x10d90, 0x10e5f), (0x10e7f, 0x10e7f),
   (0x10eaa, 0x10eaa), (0x10eae, 0x10eaf), (0x10eb2, 0x10ec1), (0x10ec8, 0x10ecf),
   (0x10ed9, 0x10ef9), (0x10f28, 0x10f2f), (0x10f5a, 0x10f6f), (0x10f8a, 0x10faf),
   (0x10fcc, 0x10fdf), (0x10ff7, 0x10fff), (0x1104e, 0x11051), (0x11076, 0x1107e),
   (0x110bd, 0x110bd), (0x110c3, 0x110cf), (0x110e9, 0x110ef), (0x110fa, 0x110ff),
   (0x11135, 0x11135), (0x11148, 0x1114f), (0x11177, 0x1117f), (0x111e0, 0x111e0),
   (0x111f5, 0x111ff), (0x11212, 0x11212), (0x11242, 0x1127f), (0x11287, 0x11287),
   (0x11289, 0x11289), (0x1128e, 0x1128e), (0x1129e, 0x1129e), (0x112aa, 0x112af),
   (0x112eb, 0x112ef), (0x112fa, 0x112ff), (0x11304, 0x11304), (0x1130d, 0x1130e),
   (0x11311, 0x11312), (0x11329, 0x11329), (0x11331, 0x11331), (0x11334, 0x11334),
   (0x1133a, 0x1133a), (0x11345, 0x11346), (0x11349, 0x1134a), (0x1134e, 0x1134f),
   (0x11351, 0x11356), (0x11358, 0x1135c), (0x11364, 0x11365), (0x1136d, 0x1136f),
   (0x11375, 0x1137f), (0x1138a, 0x1138a), (0x1138c, 0x1138d), (0x1138f, 0x1138f),
   (0x113b6, 0x113b6), (0x113c1, 0x113c1), (0x113c3, 0x113c4), (0x113c6, 0x113c6),
   (0x113cb, 0x113cb), (0x113d6, 0x113d6), (0x113d9, 0x113e0), (0x113e3, 0x113ff),
   (0x1145c, 0x1145c), (0x11462, 0x1147f), (0x114c8, 0x114cf), (0x114da, 0x1157f),
   (0x115b6, 0x115b7), (0x115de, 0x115ff), (0x11645, 0x1164f), (0x1165a, 0x1165f),
   (0x1166d, 0x1167f), (0x116ba, 0x116bf), (0x116ca, 0x116cf), (0x116e4, 0x116ff),
   (0x1171b, 0x1171c), (0x1172c, 0x1172f), (0x11747, 0x117ff), (0x1183c, 0x1189f),
   (0x118f3, 0x118fe), (0x11907, 0x11908), (0x1190a, 0x1190b), (0x11914, 0x11914),
   (0x11917, 0x11917), (0x11936, 0x11936), (0x11939, 0x1193a), (0x11947, 0x1194f),
   (0x1195a, 0x1199f), (0x119a8, 0x119a9), (0x119d8, 0x119d9), (0x119e5, 0x119ff),
   (0x11a48, 0x11a4f), (0x11aa3, 0x11aaf), (0x11af9, 0x11aff), (0x11b0a, 0x11b5f),
   (0x11b68, 0x11bbf), (0x11be2, 0x11bef), (0x11bfa, 0x11bff), (0x11c09, 0x11c09),
   (0x11c37, 0x11c37), (0x11c46, 0x11c4f), (0x11c6d, 0x11c6f), (0x11c90, 0x11c91),
   (0x11ca8, 0x11ca8), (0x11cb7, 0x11cff), (0x11d07, 0x11d07), (0x11d0a, 0x11d0a),
   (0x11d37, 0x11d39), (0x11d3b, 0x11d3b), (0x11d3e, 0x11d3e), (0x11d48, 0x11d4f),
   (0x11d5a, 0x11d5f), (0x11d66, 0x11d66), (0x11d69, 0x11d69), (0x11d8f, 0x11d8f),
   (0x11d92, 0x11d92), (0x11d99, 0x11d9f), (0x11daa, 0x11daf), (0x11ddc, 0x11ddf),
   (0x11dea, 0x11edf), (0x11ef9, 0x11eff), (0x11f11, 0x11f11), (0x11f3b, 0x11f3d),
   (0x11f5b, 0x11faf), (0x11fb1, 0x11fbf), (0x11ff2, 0x11ffe), (0x1239a, 0x123ff),
   (0x1246f, 0x1246f), (0x12475, 0x1247f), (0x12544, 0x12f8f), (0x12ff3, 0x12fff),
   (0x13430, 0x1343f), (0x13456, 0x1345f), (0x143fb, 0x143ff), (0x14647, 0x160ff),
   (0x1613a, 0x167ff), (0x16a39, 0x16a3f), (0x16a5f, 0x16a5f), (0x16a6a, 0x16a6d),
   (0x16abf, 0x16abf), (0x16aca, 0x16acf), (0x16aee, 0x16aef), (0x16af6, 0x16aff),
   (0x16b46, 0x16b4f), (0x16b5a, 0x16b5a), (0x16b62, 0x16b62), (0x16b78, 0x16b7c),
   (0x16b90, 0x16d3f), (0x16d7a, 0x16e3f), (0x16e9b, 0x16e9f), (0x16eb9, 0x16eba),
   (0x16ed4, 0x16eff), (0x16f4b, 0x16f4e), (0x16f88, 0x16f8e), (0x16fa0, 0x16fdf),
   (0x16fe5, 0x16fef), (0x16ff7, 0x16fff), (0x18cd6, 0x18cfe), (0x18d1f, 0x18d7f),
   (0x18df3, 0x1afef), (0x1aff4, 0x1aff4), (0x1affc, 0x1affc), (0x1afff, 0x1afff),
   (0x1b123, 0x1b131), (0x1b133, 0x1b14f), (0x1b153, 0x1b154), (0x1b156, 0x1b163),
   (0x1b168, 0x1b16f), (0x1b2fc, 0x1bbff), (0x1bc6b, 0x1bc6f), (0x1bc7d, 0x1bc7f),
   (0x1bc89, 0x1bc8f), (0x1bc9a, 0x1bc9b), (0x1bca4, 0x1cbff), (0x1ccfd, 0x1ccff),
   (0x1ceb4, 0x1ceb9), (0x1ced1, 0x1cedf), (0x1cef1, 0x1ceff), (0x1cf2e, 0x1cf2f),
   (0x1cf47, 0x1cf4f), (0x1cfc4, 0x1cfff), (0x1d0f6, 0x1d0ff), (0x1d127, 0x1d128),
   (0x1d1eb, 0x1d1ff), (0x1d246, 0x1d2bf), (0x1d2d4, 0x1d2df), (0x1d2f4, 0x1d2ff),
   (0x1d357, 0x1d35f), (0x1d379, 0x1d3ff), (0x1d455, 0x1d455), (0x1d49d, 0x1d49d),
   (0x1d4a0, 0x1d4a1), (0x1d4a3, 0x1d4a4), (0x1d4a7, 0x1d4a8), (0x1d4ad, 0x1d4ad),
   (0x1d4ba, 0x1d4ba), (0x1d4bc, 0x1d4bc), (0x1d4c4, 0x1d4c4), (0x1d506, 0x1d506),
   (0x1d50b, 0x1d50c), (0x1d515, 0x1d515), (0x1d51d, 0x1d51d), (0x1d53a, 0x1d53a),
   (0x1d53f, 0x1d53f), (0x1d545, 0x1d545), (0x1d547, 0x1d549), (0x1d551, 0x1d551),
   (0x1d6a6, 0x1d6a7), (0x1d7cc, 0x1d7cd), (0x1da8c, 0x1da9a), (0x1daa0, 0x1daa0),
   (0x1dab0, 0x1deff), (0x1df1f, 0x1df24), (0x1df2b, 0x1dfff), (0x1e007, 0x1e007),
   (0x1e019, 0x1e01a), (0x1e022, 0x1e022), (0x1e025, 0x1e025), (0x1e02b, 0x1e02f),
   (0x1e06e, 0x1e08e), (0x1e090, 0x1e0ff), (0x1e12d, 0x1e12f), (0x1e13e, 0x1e13f),
   (0x1e14a, 0x1e14d), (0x1e150, 0x1e28f), (0x1e2af, 0x1e2bf), (0x1e2fa, 0x1e2fe),
   (0x1e300, 0x1e4cf), (0x1e4fa, 0x1e5cf), (0x1e5fb, 0x1e5fe), (0x1e600, 0x1e6bf),
   (0x1e6df, 0x1e6df), (0x1e6f6, 0x1e6fd), (0x1e700, 0x1e7df), (0x1e7e7, 0x1e7e7),
   (0x1e7ec, 0x1e7ec), (0x1e7ef, 0x1e7ef), (0x1e7ff, 0x1e7ff), (0x1e8c5, 0x1e8c6),
   (0x1e8d7, 0x1e8ff), (0x1e94c, 0x1e94f), (0x1e95a, 0x1e95d), (0x1e960, 0x1ec70),
   (0x1ecb5, 0x1ed00), (0x1ed3e, 0x1edff), (0x1ee04, 0x1ee04), (0x1ee20, 0x1ee20),
   (0x1ee23, 0x1ee23), (0x1ee25, 0x1ee26), (0x1ee28, 0x1ee28), (0x1ee33, 0x1ee33),
   (0x1ee38, 0x1ee38), (0x1ee3a, 0x1ee3a), (0x1ee3c, 0x1ee41), (0x1ee43, 0x1ee46),
   (0x1ee48, 0x1ee48), (0x1ee4a, 0x1ee4a), (0x1ee4c, 0x1ee4c), (0x1ee50, 0x1ee50),
   (0x1ee53, 0x1ee53), (0x1ee55, 0x1ee56), (0x1ee58, 0x1ee58), (0x1ee5a, 0x1ee5a),
   (0x1ee5c, 0x1ee5c), (0x1ee5e, 0x1ee5e), (0x1ee60, 0x1ee60), (0x1ee63, 0x1ee63),
   (0x1ee65, 0x1ee66), (0x1ee6b, 0x1ee6b), (0x1ee73, 0x1ee73), (0x1ee78, 0x1ee78),
   (0x1ee7d, 0x1ee7d), (0x1ee7f, 0x1ee7f), (0x1ee8a, 0x1ee8a), (0x1ee9c, 0x1eea0),
   (0x1eea4, 0x1eea4), (0x1eeaa, 0x1eeaa), (0x1eebc, 0x1eeef), (0x1eef2, 0x1efff),
   (0x1f02c, 0x1f02f), (0x1f094, 0x1f09f), (0x1f0af, 0x1f0b0), (0x1f0c0, 0x1f0c0),
   (0x1f0d0, 0x1f0d0), (0x1f0f6, 0x1f100), (0x1f1ae, 0x1f1e5), (0x1f203, 0x1f20f),
   (0x1f23c, 0x1f23f), (0x1f249, 0x1f24f), (0x1f252, 0x1f25f), (0x1f266, 0x1f2ff),
   (0x1f6d9, 0x1f6db), (0x1f6ed, 0x1f6ef), (0x1f6fd, 0x1f6ff), (0x1f7da, 0x1f7df),
   (0x1f7ec, 0x1f7ef), (0x1f7f1, 0x1f7ff), (0x1f80c, 0x1f80f), (0x1f848, 0x1f84f),
   (0x1f85a, 0x1f85f), (0x1f888, 0x1f88f), (0x1f8ae, 0x1f8af), (0x1f8bc, 0x1f8bf),
   (0x1f8c2, 0x1f8cf), (0x1f8d9, 0x1f8ff), (0x1fa58, 0x1fa5f), (0x1fa6e, 0x1fa6f),
   (0x1fa7d, 0x1fa7f), (0x1fa8b, 0x1fa8d), (0x1fac7, 0x1fac7), (0x1fac9, 0x1facc),
   (0x1fadd, 0x1fade), (0x1faeb, 0x1faee), (0x1faf9, 0x1faff), (0x1fb93, 0x1fb93),
   (0x1fbfb, 0x1ffff), (0x2a6e0, 0x2a6ff), (0x2b81e, 0x2b81f), (0x2ceae, 0x2ceaf),
   (0x2ebe1, 0x2ebef), (0x2ee5e, 0x2f7ff), (0x2fa1e, 0x2ffff), (0x3134b, 0x3134f),
   (0x3347a, 0xe00ff), (0xe01f0, 0x10ffff)]

/-- What becomes of a character; `none` if no name may contain it. -/
def char (c : Char) : Option (List Char) :=
  if c.toNat < 128 then some [c.toLower]
  else if within refused c.toNat then none
  else some (((lookup rows c.toNat).getD [c.toNat]).map Char.ofNat)

/-- What becomes of a text; `none` if it has a character that no name may contain. -/
def text : List Char → Option (List Char)
  | [] => some []
  | c :: rest => do
    let first ← char c
    let others ← text rest
    pure (first ++ others)

end Fold
end Text
end RaceLink
