import DocQuery.Text.RangeTable

/-!
# DocQuery.Text.Normal.Tables

The data of canonical normalisation, from the Unicode character database (version 15.0): combining
classes, canonical decompositions and the pairs that compose. Hangul syllables are not listed; they
follow from arithmetic in `DocQuery.Text.Normal.Basic`.

Each entry is one number, so that a table is a sorted array and a look-up a binary search: three
fields of 21 bits, the most significant one being the key.
-/

namespace DocQuery.Text.Normal

/-- Runs of equal combining class: first code point, code point past the end, class. -/
def classRuns : Array Nat := #[
  0xc000062a000e6, 0xc540062c000e8, 0xc5800634000dc, 0xc6800636000e8, 0xc6c00638000d8,
  0xc7000642000dc, 0xc8400646000ca, 0xc8c0064e000dc, 0xc9c00652000ca, 0xca400668000dc,
  0xcd00067200001, 0xce40067a000dc, 0xcf40068a000e6, 0xd140068c000f0, 0xd180068e000e6,
  0xd1c00694000dc, 0xd280069a000e6, 0xd340069e000dc, 0xd40006a6000e6, 0xd4c006ae000dc,
  0xd5c006b0000e6, 0xd60006b2000e8, 0xd64006b6000dc, 0xd6c006b8000e6, 0xd70006ba000e9,
  0xd74006be000ea, 0xd7c006c0000e9, 0xd80006c4000ea, 0xd88006c6000e9, 0xd8c006e0000e6,
  0x120c00910000e6, 0x164400b24000dc, 0x164800b2c000e6, 0x165800b2e000dc, 0x165c00b34000e6,
  0x166800b36000de, 0x166c00b38000dc, 0x167000b44000e6, 0x168800b50000dc, 0x16a000b54000e6,
  0x16a800b56000dc, 0x16ac00b5a000e6, 0x16b400b5c000de, 0x16b800b5e000e4, 0x16bc00b60000e6,
  0x16c000b620000a, 0x16c400b640000b, 0x16c800b660000c, 0x16cc00b680000d, 0x16d000b6a0000e,
  0x16d400b6c0000f, 0x16d800b6e00010, 0x16dc00b7000011, 0x16e000b7200012, 0x16e400b7600013,
  0x16ec00b7800014, 0x16f000b7a00015, 0x16f400b7c00016, 0x16fc00b8000017, 0x170400b8400018,
  0x170800b8600019, 0x171000b8a000e6, 0x171400b8c000dc, 0x171c00b9000012, 0x184000c30000e6,
  0x186000c320001e, 0x186400c340001f, 0x186800c3600020, 0x192c00c980001b, 0x193000c9a0001c,
  0x193400c9c0001d, 0x193800c9e0001e, 0x193c00ca00001f, 0x194000ca200020, 0x194400ca400021,
  0x194800ca600022, 0x194c00caa000e6, 0x195400cae000dc, 0x195c00cb8000e6, 0x197000cba000dc,
  0x197400cbe000e6, 0x197c00cc0000dc, 0x19c000ce200023, 0x1b5800dba000e6, 0x1b7c00dc6000e6,
  0x1b8c00dc8000dc, 0x1b9000dca000e6, 0x1b9c00dd2000e6, 0x1ba800dd6000dc, 0x1bac00dda000e6,
  0x1bb400ddc000dc, 0x1c4400e2400024, 0x1cc000e62000e6, 0x1cc400e64000dc, 0x1cc800e68000e6,
  0x1cd000e6a000dc, 0x1cd400e6e000e6, 0x1cdc00e74000dc, 0x1ce800e76000e6, 0x1cec00e7a000dc,
  0x1cf400e7c000e6, 0x1cf800e7e000dc, 0x1cfc00e84000e6, 0x1d0800e86000dc, 0x1d0c00e88000e6,
  0x1d1000e8a000dc, 0x1d1400e8c000e6, 0x1d1800e8e000dc, 0x1d1c00e90000e6, 0x1d2000e92000dc,
  0x1d2400e96000e6, 0x1fac00fe4000e6, 0x1fc800fe6000dc, 0x1fcc00fe8000e6, 0x1ff400ffc000dc,
  0x205801034000e6, 0x206c01048000e6, 0x209401050000e6, 0x20a40105c000e6, 0x2164010b8000dc,
  0x226001132000e6, 0x226401138000dc, 0x227001140000e6, 0x23280119e000e6, 0x233c011a8000dc,
  0x2350011c4000e6, 0x238c011c8000dc, 0x2390011cc000e6, 0x2398011ce000dc, 0x239c011d2000e6,
  0x23a4011d4000dc, 0x23a8011da000e6, 0x23b4011e0000dc, 0x23c0011e20001b, 0x23c4011e40001c,
  0x23c8011e60001d, 0x23cc011ec000e6, 0x23d8011ee000dc, 0x23dc011f2000e6, 0x23e4011f6000dc,
  0x23ec01200000e6, 0x24f00127a00007, 0x25340129c00009, 0x2544012a4000e6, 0x2548012a6000dc,
  0x254c012aa000e6, 0x26f00137a00007, 0x27340139c00009, 0x27f8013fe000e6, 0x28f00147a00007,
  0x29340149c00009, 0x2af00157a00007, 0x2b340159c00009, 0x2cf00167a00007, 0x2d340169c00009,
  0x2f340179c00009, 0x30f00187a00007, 0x31340189c00009, 0x3154018ac00054, 0x3158018ae0005b,
  0x32f00197a00007, 0x33340199c00009, 0x34ec01a7a00009, 0x353401a9c00009, 0x372801b9600009,
  0x38e001c7400067, 0x38e801c7600009, 0x392001c980006b, 0x3ae001d7400076, 0x3ae801d7600009,
  0x3b2001d980007a, 0x3b3801d9e0007a, 0x3c6001e34000dc, 0x3cd401e6c000dc, 0x3cdc01e70000dc,
  0x3ce401e74000d8, 0x3dc401ee400081, 0x3dc801ee600082, 0x3dd001eea00084, 0x3de801efc00082,
  0x3e0001f0200082, 0x3e0801f08000e6, 0x3e1001f0a00009, 0x3e1801f10000e6, 0x3f1801f8e000dc,
  0x40dc0207000007, 0x40e40207600009, 0x42340211c000dc, 0x4d74026c0000e6, 0x5c5002e2c00009,
  0x5cd002e6a00009, 0x5f4802fa600009, 0x5f7402fbc000e6, 0x62a403154000e4, 0x64e403274000de,
  0x64e803276000e6, 0x64ec03278000dc, 0x685c03430000e6, 0x686003432000dc, 0x6980034c200009,
  0x69d4034fa000e6, 0x69fc03500000dc, 0x6ac00356a000e6, 0x6ad403576000dc, 0x6aec0357a000e6,
  0x6af40357c000dc, 0x6afc03582000dc, 0x6b0403586000e6, 0x6b0c0358a000dc, 0x6b1403594000e6,
  0x6b2803596000dc, 0x6b2c0359e000e6, 0x6cd00366a00007, 0x6d100368a00009, 0x6dac036d8000e6,
  0x6db0036da000dc, 0x6db4036e8000e6, 0x6ea80375800009, 0x6f98037ce00007, 0x6fc8037e800009,
  0x70dc0387000007, 0x7340039a6000e6, 0x7350039aa00001, 0x7354039b4000dc, 0x7368039b8000e6,
  0x7370039c0000dc, 0x7380039c2000e6, 0x7388039d200001, 0x73b4039dc000dc, 0x73d0039ea000e6,
  0x73e0039f4000e6, 0x770003b84000e6, 0x770803b86000dc, 0x770c03b94000e6, 0x772803b96000dc,
  0x772c03b9a000e6, 0x773403b9c000ea, 0x773803b9e000d6, 0x773c03ba0000dc, 0x774003ba2000ca,
  0x774403bec000e6, 0x77d803bee000e8, 0x77dc03bf2000e4, 0x77e403bf4000dc, 0x77e803bf6000da,
  0x77ec03bf8000e6, 0x77f003bfa000e9, 0x77f403bfc000dc, 0x77f803bfe000e6, 0x77fc03c00000dc,
  0x8340041a4000e6, 0x8348041a800001, 0x8350041b0000e6, 0x8360041b600001, 0x836c041ba000e6,
  0x8384041c4000e6, 0x8394041ce00001, 0x839c041d0000e6, 0x83a0041d2000dc, 0x83a4041d4000e6,
  0x83a8041d800001, 0x83b0041e0000dc, 0x83c0041e2000e6, 0xb3bc059e4000e6, 0xb5fc05b0000009,
  0xb78005c00000e6, 0xc0a806056000da, 0xc0ac06058000e4, 0xc0b00605a000e8, 0xc0b40605c000de,
  0xc0b806060000e0, 0xc2640613600008, 0x299bc14ce0000e6, 0x299d014cfc000e6, 0x29a7814d40000e6,
  0x29bc014de4000e6, 0x2a0181500e00009, 0x2a0b01505a00009, 0x2a3101518a00009, 0x2a380151e4000e6,
  0x2a4ac1525c000dc, 0x2a54c152a800009, 0x2a6cc1536800007, 0x2a7001538200009, 0x2aac015562000e6,
  0x2aac815568000e6, 0x2aad01556a000dc, 0x2aadc15572000e6, 0x2aaf815580000e6, 0x2ab0415584000e6,
  0x2abd8155ee00009, 0x2afb4157dc00009, 0x3ec781f63e0001a, 0x3f8801fc4e000e6, 0x3f89c1fc5c000dc,
  0x3f8b81fc60000e6, 0x407f4203fc000dc, 0x40b80205c2000dc, 0x40dd8206f6000e6, 0x428342141c000dc,
  0x4283c21420000e6, 0x428e021472000e6, 0x428e42147400001, 0x428e821476000dc, 0x428fc2148000009,
  0x42b94215cc000e6, 0x42b98215ce000dc, 0x4349021a50000e6, 0x43aac21d5a000e6, 0x43bf421e00000dc,
  0x43d1821e90000dc, 0x43d2021e96000e6, 0x43d2c21e98000dc, 0x43d3021e9a000e6, 0x43d3421ea2000dc,
  0x43e0821f06000e6, 0x43e0c21f08000dc, 0x43e1021f0a000e6, 0x43e1421f0c000dc, 0x441182208e00009,
  0x441c0220e200009, 0x441fc2210000009, 0x442e42217400009, 0x442e82217600007, 0x4440022206000e6,
  0x444cc2226a00009, 0x445cc222e800007, 0x447002238200009, 0x447282239600007, 0x448d42246c00009,
  0x448d82246e00007, 0x44ba4225d400007, 0x44ba8225d600009, 0x44cec2267a00007, 0x44d342269c00009,
  0x44d98226da000e6, 0x44dc0226ea000e6, 0x451082288600009, 0x451182288e00007, 0x45178228be000e6,
  0x453082298600009, 0x4530c2298800007, 0x456fc22b8000009, 0x4570022b8200007, 0x458fc22c8000009,
  0x45ad822d6e00009, 0x45adc22d7000007, 0x45cac22e5800009, 0x460e42307400009, 0x460e82307600007,
  0x464f42327e00009, 0x4650c2328800007, 0x46780233c200009, 0x468d02346a00009, 0x4691c2349000009,
  0x46a642353400009, 0x470fc2388000009, 0x4750823a8600007, 0x4751023a8c00009, 0x4765c23b3000009,
  0x47d0423e8600009, 0x5abc02d5ea00001, 0x5acc02d66e000e6, 0x5bfc02dfe400006, 0x6f2783793e00001,
  0x745943a2ce000d8, 0x7459c3a2d400001, 0x745b43a2dc000e2, 0x745b83a2e6000d8, 0x745ec3a306000dc,
  0x746143a314000e6, 0x746283a318000dc, 0x746a83a35c000e6, 0x749083a48a000e6, 0x780003c00e000e6,
  0x780203c032000e6, 0x7806c3c044000e6, 0x7808c3c04a000e6, 0x780983c056000e6, 0x7823c3c120000e6,
  0x784c03c26e000e6, 0x78ab83c55e000e6, 0x78bb03c5e0000e6, 0x793b03c9dc000e8, 0x793b83c9de000dc,
  0x793bc3c9e0000e6, 0x7a3403d1ae000dc, 0x7a5103d294000e6, 0x7a5283d29600007]

set_option maxRecDepth 20000 in
/-- Canonical decompositions: code point, first part, second part (zero for a singleton). -/
def decompositions : Array Nat := #[
  0x3000008200300, 0x3040008200301, 0x3080008200302, 0x30c0008200303, 0x3100008200308,
  0x314000820030a, 0x31c0008600327, 0x3200008a00300, 0x3240008a00301, 0x3280008a00302,
  0x32c0008a00308, 0x3300009200300, 0x3340009200301, 0x3380009200302, 0x33c0009200308,
  0x3440009c00303, 0x3480009e00300, 0x34c0009e00301, 0x3500009e00302, 0x3540009e00303,
  0x3580009e00308, 0x364000aa00300, 0x368000aa00301, 0x36c000aa00302, 0x370000aa00308,
  0x374000b200301, 0x380000c200300, 0x384000c200301, 0x388000c200302, 0x38c000c200303,
  0x390000c200308, 0x394000c20030a, 0x39c000c600327, 0x3a0000ca00300, 0x3a4000ca00301,
  0x3a8000ca00302, 0x3ac000ca00308, 0x3b0000d200300, 0x3b4000d200301, 0x3b8000d200302,
  0x3bc000d200308, 0x3c4000dc00303, 0x3c8000de00300, 0x3cc000de00301, 0x3d0000de00302,
  0x3d4000de00303, 0x3d8000de00308, 0x3e4000ea00300, 0x3e8000ea00301, 0x3ec000ea00302,
  0x3f0000ea00308, 0x3f4000f200301, 0x3fc000f200308, 0x4000008200304, 0x404000c200304,
  0x4080008200306, 0x40c000c200306, 0x4100008200328, 0x414000c200328, 0x4180008600301,
  0x41c000c600301, 0x4200008600302, 0x424000c600302, 0x4280008600307, 0x42c000c600307,
  0x430000860030c, 0x434000c60030c, 0x438000880030c, 0x43c000c80030c, 0x4480008a00304,
  0x44c000ca00304, 0x4500008a00306, 0x454000ca00306, 0x4580008a00307, 0x45c000ca00307,
  0x4600008a00328, 0x464000ca00328, 0x4680008a0030c, 0x46c000ca0030c, 0x4700008e00302,
  0x474000ce00302, 0x4780008e00306, 0x47c000ce00306, 0x4800008e00307, 0x484000ce00307,
  0x4880008e00327, 0x48c000ce00327, 0x4900009000302, 0x494000d000302, 0x4a00009200303,
  0x4a4000d200303, 0x4a80009200304, 0x4ac000d200304, 0x4b00009200306, 0x4b4000d200306,
  0x4b80009200328, 0x4bc000d200328, 0x4c00009200307, 0x4d00009400302, 0x4d4000d400302,
  0x4d80009600327, 0x4dc000d600327, 0x4e40009800301, 0x4e8000d800301, 0x4ec0009800327,
  0x4f0000d800327, 0x4f4000980030c, 0x4f8000d80030c, 0x50c0009c00301, 0x510000dc00301,
  0x5140009c00327, 0x518000dc00327, 0x51c0009c0030c, 0x520000dc0030c, 0x5300009e00304,
  0x534000de00304, 0x5380009e00306, 0x53c000de00306, 0x5400009e0030b, 0x544000de0030b,
  0x550000a400301, 0x554000e400301, 0x558000a400327, 0x55c000e400327, 0x560000a40030c,
  0x564000e40030c, 0x568000a600301, 0x56c000e600301, 0x570000a600302, 0x574000e600302,
  0x578000a600327, 0x57c000e600327, 0x580000a60030c, 0x584000e60030c, 0x588000a800327,
  0x58c000e800327, 0x590000a80030c, 0x594000e80030c, 0x5a0000aa00303, 0x5a4000ea00303,
  0x5a8000aa00304, 0x5ac000ea00304, 0x5b0000aa00306, 0x5b4000ea00306, 0x5b8000aa0030a,
  0x5bc000ea0030a, 0x5c0000aa0030b, 0x5c4000ea0030b, 0x5c8000aa00328, 0x5cc000ea00328,
  0x5d0000ae00302, 0x5d4000ee00302, 0x5d8000b200302, 0x5dc000f200302, 0x5e0000b200308,
  0x5e4000b400301, 0x5e8000f400301, 0x5ec000b400307, 0x5f0000f400307, 0x5f4000b40030c,
  0x5f8000f40030c, 0x6800009e0031b, 0x684000de0031b, 0x6bc000aa0031b, 0x6c0000ea0031b,
  0x734000820030c, 0x738000c20030c, 0x73c000920030c, 0x740000d20030c, 0x7440009e0030c,
  0x748000de0030c, 0x74c000aa0030c, 0x750000ea0030c, 0x754001b800304, 0x758001f800304,
  0x75c001b800301, 0x760001f800301, 0x764001b80030c, 0x768001f80030c, 0x76c001b800300,
  0x770001f800300, 0x7780018800304, 0x77c001c800304, 0x7800044c00304, 0x7840044e00304,
  0x7880018c00304, 0x78c001cc00304, 0x7980008e0030c, 0x79c000ce0030c, 0x7a0000960030c,
  0x7a4000d60030c, 0x7a80009e00328, 0x7ac000de00328, 0x7b0003d400304, 0x7b4003d600304,
  0x7b80036e0030c, 0x7bc005240030c, 0x7c0000d40030c, 0x7d00008e00301, 0x7d4000ce00301,
  0x7e00009c00300, 0x7e4000dc00300, 0x7e80018a00301, 0x7ec001ca00301, 0x7f00018c00301,
  0x7f4001cc00301, 0x7f8001b000301, 0x7fc001f000301, 0x800000820030f, 0x804000c20030f,
  0x8080008200311, 0x80c000c200311, 0x8100008a0030f, 0x814000ca0030f, 0x8180008a00311,
  0x81c000ca00311, 0x820000920030f, 0x824000d20030f, 0x8280009200311, 0x82c000d200311,
  0x8300009e0030f, 0x834000de0030f, 0x8380009e00311, 0x83c000de00311, 0x840000a40030f,
  0x844000e40030f, 0x848000a400311, 0x84c000e400311, 0x850000aa0030f, 0x854000ea0030f,
  0x858000aa00311, 0x85c000ea00311, 0x860000a600326, 0x864000e600326, 0x868000a800326,
  0x86c000e800326, 0x878000900030c, 0x87c000d00030c, 0x8980008200307, 0x89c000c200307,
  0x8a00008a00327, 0x8a4000ca00327, 0x8a8001ac00304, 0x8ac001ec00304, 0x8b0001aa00304,
  0x8b4001ea00304, 0x8b80009e00307, 0x8bc000de00307, 0x8c00045c00304, 0x8c40045e00304,
  0x8c8000b200304, 0x8cc000f200304, 0xd000060000000, 0xd040060200000, 0xd0c0062600000,
  0xd100061000301, 0xdd00057200000, 0xdf80007600000, 0xe140015000301, 0xe180072200301,
  0xe1c0016e00000, 0xe200072a00301, 0xe240072e00301, 0xe280073200301, 0xe300073e00301,
  0xe380074a00301, 0xe3c0075200301, 0xe400079400301, 0xea80073200308, 0xeac0074a00308,
  0xeb00076200301, 0xeb40076a00301, 0xeb80076e00301, 0xebc0077200301, 0xec00079600301,
  0xf280077200308, 0xf2c0078a00308, 0xf300077e00301, 0xf340078a00301, 0xf380079200301,
  0xf4c007a400301, 0xf50007a400308, 0x10000082a00300, 0x10040082a00308, 0x100c0082600301,
  0x101c0080c00308, 0x10300083400301, 0x10340083000300, 0x10380084600306, 0x10640083000306,
  0x10e40087000306, 0x11400086a00300, 0x11440086a00308, 0x114c0086600301, 0x115c008ac00308,
  0x11700087400301, 0x11740087000300, 0x11780088600306, 0x11d8008e80030f, 0x11dc008ea0030f,
  0x13040082c00306, 0x13080086c00306, 0x13400082000306, 0x13440086000306, 0x13480082000308,
  0x134c0086000308, 0x13580082a00306, 0x135c0086a00306, 0x1368009b000308, 0x136c009b200308,
  0x13700082c00308, 0x13740086c00308, 0x13780082e00308, 0x137c0086e00308, 0x13880083000304,
  0x138c0087000304, 0x13900083000308, 0x13940087000308, 0x13980083c00308, 0x139c0087c00308,
  0x13a8009d000308, 0x13ac009d200308, 0x13b00085a00308, 0x13b40089a00308, 0x13b80084600304,
  0x13bc0088600304, 0x13c00084600308, 0x13c40088600308, 0x13c8008460030b, 0x13cc008860030b,
  0x13d00084e00308, 0x13d40088e00308, 0x13e00085600308, 0x13e40089600308, 0x188800c4e00653,
  0x188c00c4e00654, 0x189000c9000654, 0x189400c4e00655, 0x189800c9400654, 0x1b0000daa00654,
  0x1b0800d8200654, 0x1b4c00da400654, 0x24a4012500093c, 0x24c4012600093c, 0x24d0012660093c,
  0x25600122a0093c, 0x25640122c0093c, 0x25680122e0093c, 0x256c012380093c, 0x2570012420093c,
  0x2574012440093c, 0x2578012560093c, 0x257c0125e0093c, 0x272c0138e009be, 0x27300138e009d7,
  0x277001342009bc, 0x277401344009bc, 0x277c0135e009bc, 0x28cc0146400a3c, 0x28d80147000a3c,
  0x29640142c00a3c, 0x29680142e00a3c, 0x296c0143800a3c, 0x29780145600a3c, 0x2d200168e00b56,
  0x2d2c0168e00b3e, 0x2d300168e00b57, 0x2d700164200b3c, 0x2d740164400b3c, 0x2e500172400bd7,
  0x2f280178c00bbe, 0x2f2c0178e00bbe, 0x2f300178c00bd7, 0x31200188c00c56, 0x33000197e00cd5,
  0x331c0198c00cd5, 0x33200198c00cd6, 0x33280198c00cc2, 0x332c0199400cd5, 0x352801a8c00d3e,
  0x352c01a8e00d3e, 0x353001a8c00d57, 0x376801bb200dca, 0x377001bb200dcf, 0x377401bb800dca,
  0x377801bb200ddf, 0x3d0c01e8400fb7, 0x3d3401e9800fb7, 0x3d4801ea200fb7, 0x3d5c01eac00fb7,
  0x3d7001eb600fb7, 0x3da401e8000fb5, 0x3dcc01ee200f72, 0x3dd401ee200f74, 0x3dd801f6400f80,
  0x3de001f6600f80, 0x3e0401ee200f80, 0x3e4c01f2400fb7, 0x3e7401f3800fb7, 0x3e8801f4200fb7,
  0x3e9c01f4c00fb7, 0x3eb001f5600fb7, 0x3ee401f2000fb5, 0x40980204a0102e, 0x6c180360a01b35,
  0x6c200360e01b35, 0x6c280361201b35, 0x6c300361601b35, 0x6c380361a01b35, 0x6c480362201b35,
  0x6cec0367401b35, 0x6cf40367801b35, 0x6d000367c01b35, 0x6d040367e01b35, 0x6d0c0368401b35,
  0x78000008200325, 0x7804000c200325, 0x78080008400307, 0x780c000c400307, 0x78100008400323,
  0x7814000c400323, 0x78180008400331, 0x781c000c400331, 0x78200018e00301, 0x7824001ce00301,
  0x78280008800307, 0x782c000c800307, 0x78300008800323, 0x7834000c800323, 0x78380008800331,
  0x783c000c800331, 0x78400008800327, 0x7844000c800327, 0x7848000880032d, 0x784c000c80032d,
  0x78500022400300, 0x78540022600300, 0x78580022400301, 0x785c0022600301, 0x78600008a0032d,
  0x7864000ca0032d, 0x78680008a00330, 0x786c000ca00330, 0x78700045000306, 0x78740045200306,
  0x78780008c00307, 0x787c000cc00307, 0x78800008e00304, 0x7884000ce00304, 0x78880009000307,
  0x788c000d000307, 0x78900009000323, 0x7894000d000323, 0x78980009000308, 0x789c000d000308,
  0x78a00009000327, 0x78a4000d000327, 0x78a8000900032e, 0x78ac000d00032e, 0x78b00009200330,
  0x78b4000d200330, 0x78b80019e00301, 0x78bc001de00301, 0x78c00009600301, 0x78c4000d600301,
  0x78c80009600323, 0x78cc000d600323, 0x78d00009600331, 0x78d4000d600331, 0x78d80009800323,
  0x78dc000d800323, 0x78e003c6c00304, 0x78e403c6e00304, 0x78e80009800331, 0x78ec000d800331,
  0x78f0000980032d, 0x78f4000d80032d, 0x78f80009a00301, 0x78fc000da00301, 0x79000009a00307,
  0x7904000da00307, 0x79080009a00323, 0x790c000da00323, 0x79100009c00307, 0x7914000dc00307,
  0x79180009c00323, 0x791c000dc00323, 0x79200009c00331, 0x7924000dc00331, 0x79280009c0032d,
  0x792c000dc0032d, 0x7930001aa00301, 0x7934001ea00301, 0x7938001aa00308, 0x793c001ea00308,
  0x79400029800300, 0x79440029a00300, 0x79480029800301, 0x794c0029a00301, 0x7950000a000301,
  0x7954000e000301, 0x7958000a000307, 0x795c000e000307, 0x7960000a400307, 0x7964000e400307,
  0x7968000a400323, 0x796c000e400323, 0x797003cb400304, 0x797403cb600304, 0x7978000a400331,
  0x797c000e400331, 0x7980000a600307, 0x7984000e600307, 0x7988000a600323, 0x798c000e600323,
  0x7990002b400307, 0x7994002b600307, 0x7998002c000307, 0x799c002c200307, 0x79a003cc400307,
  0x79a403cc600307, 0x79a8000a800307, 0x79ac000e800307, 0x79b0000a800323, 0x79b4000e800323,
  0x79b8000a800331, 0x79bc000e800331, 0x79c0000a80032d, 0x79c4000e80032d, 0x79c8000aa00324,
  0x79cc000ea00324, 0x79d0000aa00330, 0x79d4000ea00330, 0x79d8000aa0032d, 0x79dc000ea0032d,
  0x79e0002d000301, 0x79e4002d200301, 0x79e8002d400308, 0x79ec002d600308, 0x79f0000ac00303,
  0x79f4000ec00303, 0x79f8000ac00323, 0x79fc000ec00323, 0x7a00000ae00300, 0x7a04000ee00300,
  0x7a08000ae00301, 0x7a0c000ee00301, 0x7a10000ae00308, 0x7a14000ee00308, 0x7a18000ae00307,
  0x7a1c000ee00307, 0x7a20000ae00323, 0x7a24000ee00323, 0x7a28000b000307, 0x7a2c000f000307,
  0x7a30000b000308, 0x7a34000f000308, 0x7a38000b200307, 0x7a3c000f200307, 0x7a40000b400302,
  0x7a44000f400302, 0x7a48000b400323, 0x7a4c000f400323, 0x7a50000b400331, 0x7a54000f400331,
  0x7a58000d000331, 0x7a5c000e800308, 0x7a60000ee0030a, 0x7a64000f20030a, 0x7a6c002fe00307,
  0x7a800008200323, 0x7a84000c200323, 0x7a880008200309, 0x7a8c000c200309, 0x7a900018400301,
  0x7a94001c400301, 0x7a980018400300, 0x7a9c001c400300, 0x7aa00018400309, 0x7aa4001c400309,
  0x7aa80018400303, 0x7aac001c400303, 0x7ab003d4000302, 0x7ab403d4200302, 0x7ab80020400301,
  0x7abc0020600301, 0x7ac00020400300, 0x7ac40020600300, 0x7ac80020400309, 0x7acc0020600309,
  0x7ad00020400303, 0x7ad40020600303, 0x7ad803d4000306, 0x7adc03d4200306, 0x7ae00008a00323,
  0x7ae4000ca00323, 0x7ae80008a00309, 0x7aec000ca00309, 0x7af00008a00303, 0x7af4000ca00303,
  0x7af80019400301, 0x7afc001d400301, 0x7b000019400300, 0x7b04001d400300, 0x7b080019400309,
  0x7b0c001d400309, 0x7b100019400303, 0x7b14001d400303, 0x7b1803d7000302, 0x7b1c03d7200302,
  0x7b200009200309, 0x7b24000d200309, 0x7b280009200323, 0x7b2c000d200323, 0x7b300009e00323,
  0x7b34000de00323, 0x7b380009e00309, 0x7b3c000de00309, 0x7b40001a800301, 0x7b44001e800301,
  0x7b48001a800300, 0x7b4c001e800300, 0x7b50001a800309, 0x7b54001e800309, 0x7b58001a800303,
  0x7b5c001e800303, 0x7b6003d9800302, 0x7b6403d9a00302, 0x7b680034000301, 0x7b6c0034200301,
  0x7b700034000300, 0x7b740034200300, 0x7b780034000309, 0x7b7c0034200309, 0x7b800034000303,
  0x7b840034200303, 0x7b880034000323, 0x7b8c0034200323, 0x7b90000aa00323, 0x7b94000ea00323,
  0x7b98000aa00309, 0x7b9c000ea00309, 0x7ba00035e00301, 0x7ba40036000301, 0x7ba80035e00300,
  0x7bac0036000300, 0x7bb00035e00309, 0x7bb40036000309, 0x7bb80035e00303, 0x7bbc0036000303,
  0x7bc00035e00323, 0x7bc40036000323, 0x7bc8000b200300, 0x7bcc000f200300, 0x7bd0000b200323,
  0x7bd4000f200323, 0x7bd8000b200309, 0x7bdc000f200309, 0x7be0000b200303, 0x7be4000f200303,
  0x7c000076200313, 0x7c040076200314, 0x7c0803e0000300, 0x7c0c03e0200300, 0x7c1003e0000301,
  0x7c1403e0200301, 0x7c1803e0000342, 0x7c1c03e0200342, 0x7c200072200313, 0x7c240072200314,
  0x7c2803e1000300, 0x7c2c03e1200300, 0x7c3003e1000301, 0x7c3403e1200301, 0x7c3803e1000342,
  0x7c3c03e1200342, 0x7c400076a00313, 0x7c440076a00314, 0x7c4803e2000300, 0x7c4c03e2200300,
  0x7c5003e2000301, 0x7c5403e2200301, 0x7c600072a00313, 0x7c640072a00314, 0x7c6803e3000300,
  0x7c6c03e3200300, 0x7c7003e3000301, 0x7c7403e3200301, 0x7c800076e00313, 0x7c840076e00314,
  0x7c8803e4000300, 0x7c8c03e4200300, 0x7c9003e4000301, 0x7c9403e4200301, 0x7c9803e4000342,
  0x7c9c03e4200342, 0x7ca00072e00313, 0x7ca40072e00314, 0x7ca803e5000300, 0x7cac03e5200300,
  0x7cb003e5000301, 0x7cb403e5200301, 0x7cb803e5000342, 0x7cbc03e5200342, 0x7cc00077200313,
  0x7cc40077200314, 0x7cc803e6000300, 0x7ccc03e6200300, 0x7cd003e6000301, 0x7cd403e6200301,
  0x7cd803e6000342, 0x7cdc03e6200342, 0x7ce00073200313, 0x7ce40073200314, 0x7ce803e7000300,
  0x7cec03e7200300, 0x7cf003e7000301, 0x7cf403e7200301, 0x7cf803e7000342, 0x7cfc03e7200342,
  0x7d000077e00313, 0x7d040077e00314, 0x7d0803e8000300, 0x7d0c03e8200300, 0x7d1003e8000301,
  0x7d1403e8200301, 0x7d200073e00313, 0x7d240073e00314, 0x7d2803e9000300, 0x7d2c03e9200300,
  0x7d3003e9000301, 0x7d3403e9200301, 0x7d400078a00313, 0x7d440078a00314, 0x7d4803ea000300,
  0x7d4c03ea200300, 0x7d5003ea000301, 0x7d5403ea200301, 0x7d5803ea000342, 0x7d5c03ea200342,
  0x7d640074a00314, 0x7d6c03eb200300, 0x7d7403eb200301, 0x7d7c03eb200342, 0x7d800079200313,
  0x7d840079200314, 0x7d8803ec000300, 0x7d8c03ec200300, 0x7d9003ec000301, 0x7d9403ec200301,
  0x7d9803ec000342, 0x7d9c03ec200342, 0x7da00075200313, 0x7da40075200314, 0x7da803ed000300,
  0x7dac03ed200300, 0x7db003ed000301, 0x7db403ed200301, 0x7db803ed000342, 0x7dbc03ed200342,
  0x7dc00076200300, 0x7dc40075800000, 0x7dc80076a00300, 0x7dcc0075a00000, 0x7dd00076e00300,
  0x7dd40075c00000, 0x7dd80077200300, 0x7ddc0075e00000, 0x7de00077e00300, 0x7de40079800000,
  0x7de80078a00300, 0x7dec0079a00000, 0x7df00079200300, 0x7df40079c00000, 0x7e0003e0000345,
  0x7e0403e0200345, 0x7e0803e0400345, 0x7e0c03e0600345, 0x7e1003e0800345, 0x7e1403e0a00345,
  0x7e1803e0c00345, 0x7e1c03e0e00345, 0x7e2003e1000345, 0x7e2403e1200345, 0x7e2803e1400345,
  0x7e2c03e1600345, 0x7e3003e1800345, 0x7e3403e1a00345, 0x7e3803e1c00345, 0x7e3c03e1e00345,
  0x7e4003e4000345, 0x7e4403e4200345, 0x7e4803e4400345, 0x7e4c03e4600345, 0x7e5003e4800345,
  0x7e5403e4a00345, 0x7e5803e4c00345, 0x7e5c03e4e00345, 0x7e6003e5000345, 0x7e6403e5200345,
  0x7e6803e5400345, 0x7e6c03e5600345, 0x7e7003e5800345, 0x7e7403e5a00345, 0x7e7803e5c00345,
  0x7e7c03e5e00345, 0x7e8003ec000345, 0x7e8403ec200345, 0x7e8803ec400345, 0x7e8c03ec600345,
  0x7e9003ec800345, 0x7e9403eca00345, 0x7e9803ecc00345, 0x7e9c03ece00345, 0x7ea003ed000345,
  0x7ea403ed200345, 0x7ea803ed400345, 0x7eac03ed600345, 0x7eb003ed800345, 0x7eb403eda00345,
  0x7eb803edc00345, 0x7ebc03ede00345, 0x7ec00076200306, 0x7ec40076200304, 0x7ec803ee000345,
  0x7ecc0076200345, 0x7ed00075800345, 0x7ed80076200342, 0x7edc03f6c00345, 0x7ee00072200306,
  0x7ee40072200304, 0x7ee80072200300, 0x7eec0070c00000, 0x7ef00072200345, 0x7ef80077200000,
  0x7f040015000342, 0x7f0803ee800345, 0x7f0c0076e00345, 0x7f100075c00345, 0x7f180076e00342,
  0x7f1c03f8c00345, 0x7f200072a00300, 0x7f240071000000, 0x7f280072e00300, 0x7f2c0071200000,
  0x7f300072e00345, 0x7f3403f7e00300, 0x7f3803f7e00301, 0x7f3c03f7e00342, 0x7f400077200306,
  0x7f440077200304, 0x7f480079400300, 0x7f4c0072000000, 0x7f580077200342, 0x7f5c0079400342,
  0x7f600073200306, 0x7f640073200304, 0x7f680073200300, 0x7f6c0071400000, 0x7f7403ffc00300,
  0x7f7803ffc00301, 0x7f7c03ffc00342, 0x7f800078a00306, 0x7f840078a00304, 0x7f880079600300,
  0x7f8c0076000000, 0x7f900078200313, 0x7f940078200314, 0x7f980078a00342, 0x7f9c0079600342,
  0x7fa00074a00306, 0x7fa40074a00304, 0x7fa80074a00300, 0x7fac0071c00000, 0x7fb00074200314,
  0x7fb40015000300, 0x7fb80070a00000, 0x7fbc000c000000, 0x7fc803ef800345, 0x7fcc0079200345,
  0x7fd00079c00345, 0x7fd80079200342, 0x7fdc03fec00345, 0x7fe00073e00300, 0x7fe40071800000,
  0x7fe80075200300, 0x7fec0071e00000, 0x7ff00075200345, 0x7ff40016800000, 0x80000400400000,
  0x80040400600000, 0x84980075200000, 0x84a80009600000, 0x84ac0018a00000, 0x86680432000338,
  0x866c0432400338, 0x86b80432800338, 0x8734043a000338, 0x8738043a800338, 0x873c043a400338,
  0x88100440600338, 0x88240441000338, 0x88300441600338, 0x88900444600338, 0x88980444a00338,
  0x89040447800338, 0x89100448600338, 0x891c0448a00338, 0x89240449000338, 0x89800007a00338,
  0x8988044c200338, 0x89b40449a00338, 0x89b80007800338, 0x89bc0007c00338, 0x89c0044c800338,
  0x89c4044ca00338, 0x89d0044e400338, 0x89d4044e600338, 0x89e0044ec00338, 0x89e4044ee00338,
  0x8a00044f400338, 0x8a04044f600338, 0x8a100450400338, 0x8a140450600338, 0x8a200450c00338,
  0x8a240450e00338, 0x8ab00454400338, 0x8ab40455000338, 0x8ab80455200338, 0x8abc0455600338,
  0x8b80044f800338, 0x8b84044fa00338, 0x8b880452200338, 0x8b8c0452400338, 0x8ba80456400338,
  0x8bac0456600338, 0x8bb00456800338, 0x8bb40456a00338, 0x8ca40601000000, 0x8ca80601200000,
  0xab70055ba00338, 0xc1300609603099, 0xc1380609a03099, 0xc1400609e03099, 0xc148060a203099,
  0xc150060a603099, 0xc158060aa03099, 0xc160060ae03099, 0xc168060b203099, 0xc170060b603099,
  0xc178060ba03099, 0xc180060be03099, 0xc188060c203099, 0xc194060c803099, 0xc19c060cc03099,
  0xc1a4060d003099, 0xc1c0060de03099, 0xc1c4060de0309a, 0xc1cc060e403099, 0xc1d0060e40309a,
  0xc1d8060ea03099, 0xc1dc060ea0309a, 0xc1e4060f003099, 0xc1e8060f00309a, 0xc1f0060f603099,
  0xc1f4060f60309a, 0xc2500608c03099, 0xc2780613a03099, 0xc2b00615603099, 0xc2b80615a03099,
  0xc2c00615e03099, 0xc2c80616203099, 0xc2d00616603099, 0xc2d80616a03099, 0xc2e00616e03099,
  0xc2e80617203099, 0xc2f00617603099, 0xc2f80617a03099, 0xc3000617e03099, 0xc3080618203099,
  0xc3140618803099, 0xc31c0618c03099, 0xc3240619003099, 0xc3400619e03099, 0xc3440619e0309a,
  0xc34c061a403099, 0xc350061a40309a, 0xc358061aa03099, 0xc35c061aa0309a, 0xc364061b003099,
  0xc368061b00309a, 0xc370061b603099, 0xc374061b60309a, 0xc3d00614c03099, 0xc3dc061de03099,
  0xc3e0061e003099, 0xc3e4061e203099, 0xc3e8061e403099, 0xc3f8061fa03099, 0x3e4001189000000,
  0x3e4040cde800000, 0x3e40811d9400000, 0x3e40c1199000000, 0x3e4100dda200000, 0x3e41409c6400000,
  0x3e4180a7ca00000, 0x3e41c13f3800000, 0x3e42013f3800000, 0x3e4240b2a200000, 0x3e428123a200000,
  0x3e42c0ab0e00000, 0x3e4300b29000000, 0x3e4340c3ec00000, 0x3e4380ecd200000, 0x3e43c0ff0a00000,
  0x3e44010c7e00000, 0x3e44410f7400000, 0x3e448111f000000, 0x3e44c1211e00000, 0x3e4500d40400000,
  0x3e4540da3600000, 0x3e4580e1b200000, 0x3e45c0e7bc00000, 0x3e4601087a00000, 0x3e464122d400000,
  0x3e468133e200000, 0x3e46c09d0400000, 0x3e4700a6ea00000, 0x3e4740d60800000, 0x3e4780e43600000,
  0x3e47c10c5a00000, 0x3e48013c3c00000, 0x3e4840baa000000, 0x3e4880dfd600000, 0x3e48c10b9a00000,
  0x3e490112c800000, 0x3e4940c59200000, 0x3e498103b000000, 0x3e49c1103e00000, 0x3e4a00bd9400000,
  0x3e4a40ce2e00000, 0x3e4a80dad400000, 0x3e4ac0e5f800000, 0x3e4b01219c00000, 0x3e4b409f0c00000,
  0x3e4b80a36e00000, 0x3e4bc0a5bc00000, 0x3e4c00c98800000, 0x3e4c40d5a600000, 0x3e4c80e42000000,
  0x3e4cc0edce00000, 0x3e4d01000200000, 0x3e4d410c0c00000, 0x3e4d810cb800000, 0x3e4dc11bde00000,
  0x3e4e012e6400000, 0x3e4e4136de00000, 0x3e4e813bf400000, 0x3e4ec0f11800000, 0x3e4f00f2fe00000,
  0x3e4f40fb4000000, 0x3e4f81079200000, 0x3e4fc1260800000, 0x3e50013cfe00000, 0x3e504115ac00000,
  0x3e5080b1be00000, 0x3e50c0be0800000, 0x3e5100f8c000000, 0x3e514100fc00000, 0x3e5180e4c400000,
  0x3e51c0f19400000, 0x3e5201198400000, 0x3e52412dee00000, 0x3e5280b1b000000, 0x3e52c0b8c400000,
  0x3e5300d42600000, 0x3e5340dbb400000, 0x3e5380de1e00000, 0x3e53c0fa5e00000, 0x3e5400fc6e00000,
  0x3e54412c9600000, 0x3e5480a5a400000, 0x3e54c1011600000, 0x3e5500a3b800000, 0x3e5540a39800000,
  0x3e5580f43800000, 0x3e55c0fb7c00000, 0x3e560107e200000, 0x3e56412cea00000, 0x3e5681170000000,
  0x3e56c0c59e00000, 0x3e5700d40400000, 0x3e574115fc00000, 0x3e57809c7200000, 0x3e57c0b7ce00000,
  0x3e5800c02400000, 0x3e5840e70e00000, 0x3e5880eae000000, 0x3e58c0a62e00000, 0x3e5900f1f600000,
  0x3e59409f7e00000, 0x3e5980bf5200000, 0x3e59c09c1a00000, 0x3e5a00d99800000, 0x3e5a40caf000000,
  0x3e5a80fa4400000, 0x3e5ac0a78600000, 0x3e5b00b0bc00000, 0x3e5b40ee0200000, 0x3e5b81089200000,
  0x3e5bc1155400000, 0x3e5c00d77400000, 0x3e5c411f6000000, 0x3e5c80d91000000, 0x3e5cc0c5fc00000,
  0x3e5d0105ca00000, 0x3e5d40c74000000, 0x3e5d80eaca00000, 0x3e5dc09d5c00000, 0x3e5e00a2d200000,
  0x3e5e40a39200000, 0x3e5e80d10200000, 0x3e5ec0f9ce00000, 0x3e5f0104de00000, 0x3e5f4115a400000,
  0x3e5f81239e00000, 0x3e5fc0a5ea00000, 0x3e6000a88400000, 0x3e6040b2e600000, 0x3e6080bdd800000,
  0x3e60c0cb8a00000, 0x3e6100dffc00000, 0x3e6140f25400000, 0x3e61812b5a00000, 0x3e61c134d400000,
  0x3e62013d2e00000, 0x3e62413d9c00000, 0x3e6280a53600000, 0x3e62c0cd8c00000, 0x3e6300d6ee00000,
  0x3e63411ec400000, 0x3e6380bce800000, 0x3e63c0c32000000, 0x3e6400c40000000, 0x3e6440c93400000,
  0x3e6480de4600000, 0x3e64c0e29200000, 0x3e6500e91200000, 0x3e6540f39400000, 0x3e6580fbe800000,
  0x3e65c100de00000, 0x3e66011e4c00000, 0x3e664109dc00000, 0x3e6681204600000, 0x3e66c1269400000,
  0x3e6700a42e00000, 0x3e6740a54600000, 0x3e6780a97a00000, 0x3e67c0e19000000, 0x3e6801118400000,
  0x3e6841155400000, 0x3e6880bd9200000, 0x3e68c0bfea00000, 0x3e6900c6f600000, 0x3e6940d75c00000,
  0x3e6980f87c00000, 0x3e69c0e6ea00000, 0x3e6a009dc800000, 0x3e6a40adf200000, 0x3e6a80b7ce00000,
  0x3e6ac0bb7400000, 0x3e6b00c03800000, 0x3e6b40e76400000, 0x3e6b80e8d200000, 0x3e6bc0ff3400000,
  0x3e6c01008c00000, 0x3e6c41246800000, 0x3e6c812dec00000, 0x3e6cc12e9000000, 0x3e6d01303000000,
  0x3e6d409f1600000, 0x3e6d80f35c00000, 0x3e6dc1236800000, 0x3e6e012d7000000, 0x3e6e40c1c200000,
  0x3e6e809d0c00000, 0x3e6ec0a1b400000, 0x3e6f00b7dc00000, 0x3e6f40b87e00000, 0x3e6f80cb3200000,
  0x3e6fc0d40400000, 0x3e7000e39c00000, 0x3e7040ec8400000, 0x3e708109f800000, 0x3e70c120f800000,
  0x3e71013f1a00000, 0x3e7140cd1000000, 0x3e71812c5c00000, 0x3e71c0a51200000, 0x3e7200cef600000,
  0x3e7240cfe600000, 0x3e7280da8200000, 0x3e72c0dd3800000, 0x3e7300e81200000, 0x3e7340eab200000,
  0x3e7380f0d600000, 0x3e73c0fa2000000, 0x3e740130bc00000, 0x3e7440a2da00000, 0x3e7480c45c00000,
  0x3e74c12cf000000, 0x3e7500a05600000, 0x3e7540ba3200000, 0x3e7580dbd400000, 0x3e75c11e5400000,
  0x3e7600bf1600000, 0x3e7640c28800000, 0x3e7680d02e00000, 0x3e76c0e70e00000, 0x3e77012d0c00000,
  0x3e7740a45200000, 0x3e7780a81e00000, 0x3e77c0b8ca00000, 0x3e7800cc2600000, 0x3e7840ce9c00000,
  0x3e7880d15000000, 0x3e78c0d9ca00000, 0x3e7900e80c00000, 0x3e7940ebc400000, 0x3e7980fef200000,
  0x3e79c1119e00000, 0x3e7a0111c200000, 0x3e7a41239800000, 0x3e7a812dc400000, 0x3e7ac0a67e00000,
  0x3e7b00dd7400000, 0x3e7b40a83a00000, 0x3e7b80e3a000000, 0x3e7bc0e93000000, 0x3e7c010bf400000,
  0x3e7c412d4600000, 0x3e7c8138ae00000, 0x3e7cc13d3e00000, 0x3e7d00cf2e00000, 0x3e7d40db9600000,
  0x3e7d8103d000000, 0x3e7dc0f59600000, 0x3e7e00f64000000, 0x3e7e40f92400000, 0x3e7e80e58000000,
  0x3e7ec0e13200000, 0x3e7f0116b000000, 0x3e7f409d8000000, 0x3e7f81066c00000, 0x3e7fc0a47400000,
  0x3e8000a40e00000, 0x3e8040bd4c00000, 0x3e8080c5a600000, 0x3e80c0f9ac00000, 0x3e8100b70a00000,
  0x3e8140da3c00000, 0x3e8180cd6800000, 0x3e81c11e7600000, 0x3e8201109800000, 0x3e82412c9a00000,
  0x3e8281131600000, 0x3e82c0bda600000, 0x3e8300a28000000, 0x3e8340ab8000000, 0x3e8400b0b400000,
  0x3e8480cce800000, 0x3e8540a3bc00000, 0x3e8580e65400000, 0x3e85c0ed9400000, 0x3e8600f27800000,
  0x3e8640f2bc00000, 0x3e8680f2ca00000, 0x3e86c0f31e00000, 0x3e87012eac00000, 0x3e8740f97c00000,
  0x3e8780ff7a00000, 0x3e88010c2400000, 0x3e888115f000000, 0x3e8941207000000, 0x3e898121fa00000,
  0x3e8a8131de00000, 0x3e8ac131f800000, 0x3e8b01325000000, 0x3e8b413b6800000, 0x3e8b8121bc00000,
  0x3e8bc12d6e00000, 0x3e8c009f5c00000, 0x3e8c40a1ce00000, 0x3e8c80a29a00000, 0x3e8cc0a59200000,
  0x3e8d00a5c800000, 0x3e8d40a6a200000, 0x3e8d80ab3a00000, 0x3e8dc0ac0c00000, 0x3e8e00acd000000,
  0x3e8e40b08000000, 0x3e8e80b15000000, 0x3e8ec0b8c800000, 0x3e8f00b8dc00000, 0x3e8f40c12800000,
  0x3e8f80c2d000000, 0x3e8fc0c31c00000, 0x3e9000c3e400000, 0x3e9040ca9e00000, 0x3e9080cbc400000,
  0x3e90c0cd2200000, 0x3e9100d10a00000, 0x3e9140daee00000, 0x3e9180dc3400000, 0x3e91c0de4400000,
  0x3e9200e2dc00000, 0x3e9240e45600000, 0x3e9280e84400000, 0x3e92c0f12200000, 0x3e9300f27c00000,
  0x3e9340f29200000, 0x3e9380f29000000, 0x3e93c0f2a000000, 0x3e9400f2ac00000, 0x3e9440f2ba00000,
  0x3e9480f31a00000, 0x3e94c0f31c00000, 0x3e9500f48000000, 0x3e9540f50200000, 0x3e9580f78000000,
  0x3e95c0fbe800000, 0x3e9600fc1200000, 0x3e9640fc8200000, 0x3e9680fee400000, 0x3e96c1000a00000,
  0x3e970103da00000, 0x3e974104f200000, 0x3e978104f200000, 0x3e97c108ae00000, 0x3e9801122000000,
  0x3e9841132c00000, 0x3e9881160200000, 0x3e98c1167200000, 0x3e990119a600000, 0x3e99411a1000000,
  0x3e99811f6c00000, 0x3e99c1207000000, 0x3e9a012dc600000, 0x3e9a412ffe00000, 0x3e9a81307600000,
  0x3e9ac0c0ea00000, 0x3e9b0485dc00000, 0x3e9b41043000000, 0x3e9c009c4c00000, 0x3e9c40a36a00000,
  0x3e9c80a2d000000, 0x3e9cc09f0000000, 0x3e9d00a28a00000, 0x3e9d40a30000000, 0x3e9d80a58e00000,
  0x3e9dc0a5f400000, 0x3e9e00ab3a00000, 0x3e9e40aaaa00000, 0x3e9e80ab3200000, 0x3e9ec0abc400000,
  0x3e9f00b0b400000, 0x3e9f40b16600000, 0x3e9f80b28800000, 0x3e9fc0b2a800000, 0x3ea000b4c400000,
  0x3ea040b65000000, 0x3ea080bda400000, 0x3ea0c0bdb200000, 0x3ea100bed200000, 0x3ea140bf5a00000,
  0x3ea180c1b000000, 0x3ea1c0c29c00000, 0x3ea200c21000000, 0x3ea240c31c00000, 0x3ea280c2c000000,
  0x3ea2c0c3e400000, 0x3ea300c46800000, 0x3ea340c78800000, 0x3ea380c83800000, 0x3ea3c0c8a400000,
  0x3ea400caac00000, 0x3ea440cce800000, 0x3ea480ce2e00000, 0x3ea4c0ce3600000, 0x3ea500ceac00000,
  0x3ea540d6f200000, 0x3ea580d77400000, 0x3ea5c0da8200000, 0x3ea600ddb600000, 0x3ea640dd9600000,
  0x3ea680de4400000, 0x3ea6c0e03c00000, 0x3ea700e2dc00000, 0x3ea740ef4e00000, 0x3ea780e46a00000,
  0x3ea7c0e55e00000, 0x3ea800e65400000, 0x3ea840e8e200000, 0x3ea880ea0c00000, 0x3ea8c0ea7600000,
  0x3ea900ec3a00000, 0x3ea940ec3e00000, 0x3ea980ed9400000, 0x3ea9c0edb600000, 0x3eaa00ede800000,
  0x3eaa40ee9400000, 0x3eaa80ee8000000, 0x3eaac0f19800000, 0x3eab00f56200000, 0x3eab40f78000000,
  0x3eab80f8f600000, 0x3eabc0fab600000, 0x3eac00fbe800000, 0x3eac40fe7c00000, 0x3eac81000a00000,
  0x3eacc106a400000, 0x3ead0107de00000, 0x3ead410ef200000, 0x3ead81128200000, 0x3eadc1130c00000,
  0x3eae01132c00000, 0x3eae41157e00000, 0x3eae8115f000000, 0x3eaec1159600000, 0x3eaf01160200000,
  0x3eaf4115fc00000, 0x3eaf8115da00000, 0x3eafc1167200000, 0x3eb001171400000, 0x3eb0411a1000000,
  0x3eb0811e7000000, 0x3eb0c120e400000, 0x3eb101233200000, 0x3eb14124ec00000, 0x3eb1812cf800000,
  0x3eb1c12dc600000, 0x3eb2012eac00000, 0x3eb2412fb600000, 0x3eb2812ffe00000, 0x3eb2c1301600000,
  0x3eb301307600000, 0x3eb341362400000, 0x3eb3813f3800000, 0x3eb3c4509400000, 0x3eb404508800000,
  0x3eb44467aa00000, 0x3eb480773a00000, 0x3eb4c0803000000, 0x3eb500807200000, 0x3eb544a49200000,
  0x3eb584b9a000000, 0x3eb5c4fda600000, 0x3eb6013e8600000, 0x3eb6413f1c00000, 0x3ec7400bb2005b4,
  0x3ec7c00be4005b7, 0x3eca800bd2005c1, 0x3ecac00bd2005c2, 0x3ecb01f692005c1, 0x3ecb41f692005c2,
  0x3ecb800ba0005b7, 0x3ecbc00ba0005b8, 0x3ecc000ba0005bc, 0x3ecc400ba2005bc, 0x3ecc800ba4005bc,
  0x3eccc00ba6005bc, 0x3ecd000ba8005bc, 0x3ecd400baa005bc, 0x3ecd800bac005bc, 0x3ece000bb0005bc,
  0x3ece400bb2005bc, 0x3ece800bb4005bc, 0x3ecec00bb6005bc, 0x3ecf000bb8005bc, 0x3ecf800bbc005bc,
  0x3ed0000bc0005bc, 0x3ed0400bc2005bc, 0x3ed0c00bc6005bc, 0x3ed1000bc8005bc, 0x3ed1800bcc005bc,
  0x3ed1c00bce005bc, 0x3ed2000bd0005bc, 0x3ed2400bd2005bc, 0x3ed2800bd4005bc, 0x3ed2c00baa005b9,
  0x3ed3000ba2005bf, 0x3ed3400bb6005bf, 0x3ed3800bc8005bf, 0x4426822132110ba, 0x4427022136110ba,
  0x442ac2214a110ba, 0x444b82226211127, 0x444bc2226411127, 0x44d2c2268e1133e, 0x44d302268e11357,
  0x452ec22972114ba, 0x452f022972114b0, 0x452f822972114bd, 0x456e822b70115af, 0x456ec22b72115af,
  0x464e02326a11930, 0x745783a2ae1d165, 0x7457c3a2b01d165, 0x745803a2be1d16e, 0x745843a2be1d16f,
  0x745883a2be1d170, 0x7458c3a2be1d171, 0x745903a2be1d172, 0x746ec3a3721d165, 0x746f03a3741d165,
  0x746f43a3761d16e, 0x746f83a3781d16e, 0x746fc3a3761d16f, 0x747003a3781d16f, 0xbe00009c7a00000,
  0xbe00409c7000000, 0xbe00809c8200000, 0xbe00c4024400000, 0xbe01009ec000000, 0xbe01409f5c00000,
  0xbe01809f7600000, 0xbe01c0a00400000, 0xbe0200a0f400000, 0xbe0240a13200000, 0xbe0280a1ce00000,
  0xbe02c0a19e00000, 0xbe0300693c00000, 0xbe03440c7400000, 0xbe0380a29a00000, 0xbe03c0a2a800000,
  0xbe0400a2c800000, 0xbe0440a2ee00000, 0xbe04840a3800000, 0xbe04c0697200000, 0xbe0500a2ce00000,
  0xbe0540a31a00000, 0xbe05840a9600000, 0xbe05c0a32e00000, 0xbe0600a34800000, 0xbe06409d9800000,
  0xbe0680a35800000, 0xbe06c0a36a00000, 0xbe070523be00000, 0xbe0740a3ea00000, 0xbe0780a40600000,
  0xbe07c069be00000, 0xbe0800a47600000, 0xbe0840a48c00000, 0xbe0880a4e400000, 0xbe08c0a4ee00000,
  0xbe09006a2a00000, 0xbe0940a58e00000, 0xbe0980a59200000, 0xbe09c0a5c800000, 0xbe0a00a5f400000,
  0xbe0a40a60a00000, 0xbe0a80a60c00000, 0xbe0ac0a62e00000, 0xbe0b00a69200000, 0xbe0b40a6a200000,
  0xbe0b80a6b400000, 0xbe0bc0a6e600000, 0xbe0c00a6fa00000, 0xbe0c40a6fe00000, 0xbe0c80a6fe00000,
  0xbe0cc0a6fe00000, 0xbe0d04145800000, 0xbe0d40e0e000000, 0xbe0d80a79400000, 0xbe0dc0a7be00000,
  0xbe0e0416c600000, 0xbe0e40a7d600000, 0xbe0e80a7e200000, 0xbe0ec0a80c00000, 0xbe0f00a93c00000,
  0xbe0f40a87000000, 0xbe0f80a89000000, 0xbe0fc0a8d000000, 0xbe1000a94400000, 0xbe1040a9ec00000,
  0xbe1080aa2000000, 0xbe10c0aaa600000, 0xbe1100aac600000, 0xbe1140ab0800000, 0xbe1180ab0800000,
  0xbe11c0ab3200000, 0xbe1200ab5600000, 0xbe1240ab6600000, 0xbe1280ab8400000, 0xbe12c0ae2c00000,
  0xbe1300ac0c00000, 0xbe1340ae2e00000, 0xbe1380aca200000, 0xbe13c0ace800000, 0xbe1400a40e00000,
  0xbe1440b1dc00000, 0xbe1480af9c00000, 0xbe14c0afe800000, 0xbe1500b01a00000, 0xbe1540af1600000,
  0xbe1580b06400000, 0xbe15c0b06200000, 0xbe1600b15800000, 0xbe164429c800000, 0xbe1680b1e400000,
  0xbe16c0b1ee00000, 0xbe1700b20c00000, 0xbe1740b23400000, 0xbe1780b24400000, 0xbe17c0b2c400000,
  0xbe18042d5000000, 0xbe18442dd400000, 0xbe1880b3d800000, 0xbe18c0b43600000, 0xbe1900b44e00000,
  0xbe1940b3b000000, 0xbe1980b4cc00000, 0xbe19c06ddc00000, 0xbe1a006df800000, 0xbe1a40b61000000,
  0xbe1a80b67c00000, 0xbe1ac0b67c00000, 0xbe1b04339000000, 0xbe1b40b78600000, 0xbe1b80b7b000000,
  0xbe1bc0b7ce00000, 0xbe1c00b7e600000, 0xbe1c44363000000, 0xbe1c80b7fe00000, 0xbe1cc0b80c00000,
  0xbe1d00bea600000, 0xbe1d40b84400000, 0xbe1d806f0200000, 0xbe1dc0b8c000000, 0xbe1e00b8dc00000,
  0xbe1e40b98000000, 0xbe1e80b91a00000, 0xbe1ec43bc800000, 0xbe1f00ba8600000, 0xbe1f443bcc00000,
  0xbe1f80badc00000, 0xbe1fc0bad600000, 0xbe2000baf800000, 0xbe2040bbc200000, 0xbe2080bbc400000,
  0xbe20c0705e00000, 0xbe2100bbfa00000, 0xbe2140bc5000000, 0xbe2180bc7a00000, 0xbe21c0bcd200000,
  0xbe220070c400000, 0xbe2244430600000, 0xbe228070f800000, 0xbe22c0bd6000000, 0xbe2300bd6600000,
  0xbe2340bd6c00000, 0xbe2380bd9400000, 0xbe23c5472400000, 0xbe2400bdfc00000, 0xbe2444466200000,
  0xbe2484466200000, 0xbe24c1040200000, 0xbe2500be4400000, 0xbe2540be4400000, 0xbe2580718e00000,
  0xbe25c4657000000, 0xbe2604c3b400000, 0xbe2640bec400000, 0xbe2680bed600000, 0xbe26c071c600000,
  0xbe2700bf3400000, 0xbe2740bf9a00000, 0xbe2780bfae00000, 0xbe27c0bff200000, 0xbe2800c10200000,
  0xbe2840727400000, 0xbe2880723800000, 0xbe28c0c12800000, 0xbe29044da800000, 0xbe2940c18e00000,
  0xbe2980c29000000, 0xbe29c0c29800000, 0xbe2a00c29c00000, 0xbe2a40c29800000, 0xbe2a80c2f400000,
  0xbe2ac0c31c00000, 0xbe2b00c36400000, 0xbe2b40c34800000, 0xbe2b80c35e00000, 0xbe2bc0c3bc00000,
  0xbe2c00c3e400000, 0xbe2c40c3ec00000, 0xbe2c80c42000000, 0xbe2cc0c43600000, 0xbe2d00c4ba00000,
  0xbe2d40c56200000, 0xbe2d80c5a800000, 0xbe2dc0c6a000000, 0xbe2e04561800000, 0xbe2e40c67a00000,
  0xbe2e80c5f800000, 0xbe2ec0c6d000000, 0xbe2f00c70600000, 0xbe2f40c7c800000, 0xbe2f8457e200000,
  0xbe2fc0c84400000, 0xbe3000c78a00000, 0xbe3040c75200000, 0xbe3080745c00000, 0xbe30c0c8d200000,
  0xbe3100c8fc00000, 0xbe3140c93a00000, 0xbe3180c8ee00000, 0xbe31c074d800000, 0xbe3200ca9e00000,
  0xbe3240cad800000, 0xbe3284601400000, 0xbe32c0cbc600000, 0xbe3300cdf000000, 0xbe3340cc9200000,
  0xbe3380763200000, 0xbe33c0cd2200000, 0xbe3400761000000, 0xbe344075c800000, 0xbe3480a32400000,
  0xbe34c0a32a00000, 0xbe3500ce0000000, 0xbe3540cd3800000, 0xbe3581015a00000, 0xbe35c087b200000,
  0xbe3600ce2e00000, 0xbe3640ce3600000, 0xbe3680ce4200000, 0xbe36c0cebc00000, 0xbe3700cea600000,
  0xbe3744678600000, 0xbe3780769200000, 0xbe37c0cff400000, 0xbe3800cf0a00000, 0xbe3840d0a400000,
  0xbe3880d10a00000, 0xbe38c468da00000, 0xbe3900d11c00000, 0xbe3940d03e00000, 0xbe3980d22800000,
  0xbe39c0773a00000, 0xbe3a00d28400000, 0xbe3a40d34600000, 0xbe3a80d3d400000, 0xbe3ac0d55000000,
  0xbe3b046d4600000, 0xbe3b40d5b600000, 0xbe3b80783000000, 0xbe3bc0d64200000, 0xbe3c04714e00000,
  0xbe3c40d6a800000, 0xbe3c80789c00000, 0xbe3cc0d6e400000, 0xbe3d00d73e00000, 0xbe3d40d77400000,
  0xbe3d80d77600000, 0xbe3dc4751a00000, 0xbe3e043a1600000, 0xbe3e4475f400000, 0xbe3e80d89c00000,
  0xbe3ec4797800000, 0xbe3f00d97e00000, 0xbe3f40d99a00000, 0xbe3f80d8ce00000, 0xbe3fc0da2c00000,
  0xbe4000da7c00000, 0xbe4040daee00000, 0xbe4080da8200000, 0xbe40c0dad200000, 0xbe4100daf000000,
  0xbe4140db0a00000, 0xbe41847a3c00000, 0xbe41c0da6800000, 0xbe4200dc5e00000, 0xbe4240dcdc00000,
  0xbe42807a6600000, 0xbe42c0dd9600000, 0xbe4300dd8e00000, 0xbe43447da200000, 0xbe4380dbf200000,
  0xbe43c0dedc00000, 0xbe44047ebc00000, 0xbe44447f1c00000, 0xbe4480df8c00000, 0xbe44c0e07200000,
  0xbe4500e03c00000, 0xbe4540e03600000, 0xbe45807b2c00000, 0xbe45c0e09400000, 0xbe4600e0fa00000,
  0xbe4640e0ee00000, 0xbe4680e15a00000, 0xbe46c40a4a00000, 0xbe4700e28a00000, 0xbe474484c600000,
  0xbe4780e33800000, 0xbe47c4875600000, 0xbe4800e45000000, 0xbe4840e46a00000, 0xbe4880e4a000000,
  0xbe48c48c1000000, 0xbe4900e50000000, 0xbe4940e52a00000, 0xbe49848e6a00000, 0xbe49c4902800000,
  0xbe4a00e6f400000, 0xbe4a40e71600000, 0xbe4a807d5800000, 0xbe4ac0e74a00000, 0xbe4b007d7000000,
  0xbe4b407d7000000, 0xbe4b80e88e00000, 0xbe4bc0e8b800000, 0xbe4c00e8e200000, 0xbe4c40e90a00000,
  0xbe4c80e99400000, 0xbe4cc07e3600000, 0xbe4d00ea4800000, 0xbe4d44986c00000, 0xbe4d80ea7c00000,
  0xbe4dc4992400000, 0xbe4e00eae000000, 0xbe4e44433e00000, 0xbe4e80ec2000000, 0xbe4ec49f4200000,
  0xbe4f049f7000000, 0xbe4f44a08800000, 0xbe4f807ff800000, 0xbe4fc0801000000, 0xbe5000ede800000,
  0xbe5044a1e600000, 0xbe5084a1e400000, 0xbe50c4a23200000, 0xbe5104a26600000, 0xbe5140ee3c00000,
  0xbe5180ee3e00000, 0xbe51c0ee3e00000, 0xbe5200ee9400000, 0xbe5240807200000, 0xbe5280ef1600000,
  0xbe52c0808c00000, 0xbe5300812c00000, 0xbe5344a83a00000, 0xbe5380f09c00000, 0xbe53c0f11800000,
  0xbe5400f19800000, 0xbe544081c600000, 0xbe5484ac4c00000, 0xbe54c0f2ac00000, 0xbe5504ad3400000,
  0xbe5544ad8a00000, 0xbe5580f31e00000, 0xbe55c0f3d600000, 0xbe5600825e00000, 0xbe5640f48000000,
  0xbe5680f49400000, 0xbe56c0f49e00000, 0xbe5704b2f800000, 0xbe5744b54e00000, 0xbe5784b54e00000,
  0xbe57c0f5dc00000, 0xbe5800840400000, 0xbe5844b75600000, 0xbe5880f78c00000, 0xbe58c0f79200000,
  0xbe5900844e00000, 0xbe5944b90000000, 0xbe5980f9a400000, 0xbe59c0854000000, 0xbe5a00f9d000000,
  0xbe5a40f9c600000, 0xbe5a80fa0000000, 0xbe5ac4bf0c00000, 0xbe5b00fac600000, 0xbe5b40860200000,
  0xbe5b80fb8e00000, 0xbe5bc0fc0400000, 0xbe5c00fc8a00000, 0xbe5c40866800000, 0xbe5c84c45000000,
  0xbe5cc4c48e00000, 0xbe5d0086b200000, 0xbe5d44c5b200000, 0xbe5d80fef400000, 0xbe5dc4c67c00000,
  0xbe5e00ff2a00000, 0xbe5e40fff400000, 0xbe5e81000a00000, 0xbe5ec4c9b400000, 0xbe5f04ca4600000,
  0xbe5f4100c000000, 0xbe5f84cb5000000, 0xbe5fc100e000000, 0xbe600466be00000, 0xbe604087aa00000,
  0xbe6081016400000, 0xbe60c1020600000, 0xbe6100881600000, 0xbe6141027c00000, 0xbe6180b56a00000,
  0xbe61c4cf4e00000, 0xbe6204cf6a00000, 0xbe6244672600000, 0xbe6284673800000, 0xbe62c1040200000,
  0xbe6301040800000, 0xbe63411f3c00000, 0xbe638088d600000, 0xbe63c1052200000, 0xbe6401051600000,
  0xbe6441053a00000, 0xbe6480a56600000, 0xbe64c1056200000, 0xbe6501056600000, 0xbe6541057a00000,
  0xbe658105cc00000, 0xbe65c4d67800000, 0xbe660105ca00000, 0xbe6641063a00000, 0xbe668106c600000,
  0xbe66c1075a00000, 0xbe6701064600000, 0xbe6741077a00000, 0xbe678107ce00000, 0xbe67c108ae00000,
  0xbe680106a600000, 0xbe6841079400000, 0xbe6881079800000, 0xbe68c107b800000, 0xbe6904d86c00000,
  0xbe6944dad600000, 0xbe6984d9aa00000, 0xbe69c08a5600000, 0xbe6a0109e200000, 0xbe6a4109e600000,
  0xbe6a810a2c00000, 0xbe6ac4e79400000, 0xbe6b010ac800000, 0xbe6b44de5800000, 0xbe6b808aba00000,
  0xbe6bc08ac200000, 0xbe6c04df6200000, 0xbe6c44e1a400000, 0xbe6c808ad600000, 0xbe6cc10ca000000,
  0xbe6d010cb800000, 0xbe6d410cce00000, 0xbe6d810cd200000, 0xbe6dc10d5200000, 0xbe6e010d1000000,
  0xbe6e410e1c00000, 0xbe6e810dc400000, 0xbe6ec10ef200000, 0xbe6f010e5000000, 0xbe6f410ed600000,
  0xbe6f810f0c00000, 0xbe6fc08bae00000, 0xbe70010fc200000, 0xbe7041100200000, 0xbe70808bf200000,
  0xbe70c110c000000, 0xbe710110c600000, 0xbe7144ecce00000, 0xbe718111ae00000, 0xbe71c111bc00000,
  0xbe72008c6a00000, 0xbe724111f400000, 0xbe7280697600000, 0xbe72c4f15c00000, 0xbe7304f2cc00000,
  0xbe73408d7c00000, 0xbe73808d8e00000, 0xbe73c1154000000, 0xbe740115da00000, 0xbe7441171400000,
  0xbe748118aa00000, 0xbe74c4f95000000, 0xbe7501195600000, 0xbe7541198200000, 0xbe75811a3600000,
  0xbe75c11aee00000, 0xbe7604fe5e00000, 0xbe7644100800000, 0xbe76811b9600000, 0xbe76c11b7800000,
  0xbe77011be000000, 0xbe774411bc00000, 0xbe77811da800000, 0xbe77c11e7000000, 0xbe78050ba400000,
  0xbe78450bda00000, 0xbe7881212800000, 0xbe78c121e200000, 0xbe7901222200000, 0xbe79450e5c00000,
  0xbe7981223600000, 0xbe79c1247000000, 0xbe7a0125ae00000, 0xbe7a4125b000000, 0xbe7a8124f800000,
  0xbe7ac127f200000, 0xbe7b01282a00000, 0xbe7b4517f400000, 0xbe7b812b1600000, 0xbe7bc0932a00000,
  0xbe7c012b6e00000, 0xbe7c451aee00000, 0xbe7c8093cc00000, 0xbe7cc12d8600000, 0xbe7d00bb6400000,
  0xbe7d412e4600000, 0xbe7d85228a00000, 0xbe7dc5243400000, 0xbe7e0094dc00000, 0xbe7e4094ec00000,
  0xbe7e812fc000000, 0xbe7ec5281400000, 0xbe7f00956400000, 0xbe7f45292c00000, 0xbe7f81301600000,
  0xbe7fc1301600000, 0xbe8001305200000, 0xbe80452b6c00000, 0xbe808131c400000, 0xbe80c0966600000,
  0xbe8101325200000, 0xbe8141334e00000, 0xbe8181338400000, 0xbe81c133fc00000, 0xbe8200979c00000,
  0xbe8245366000000, 0xbe8281362400000, 0xbe82c1388000000, 0xbe830139fa00000, 0xbe8340999c00000,
  0xbe838099da00000, 0xbe83c13ace00000, 0xbe8405419c00000, 0xbe844099f000000, 0xbe8485420a00000,
  0xbe84c5441c00000, 0xbe8505452200000, 0xbe85413d7600000, 0xbe85809aac00000, 0xbe85c13df200000,
  0xbe86013dfc00000, 0xbe86413e0a00000, 0xbe86813e1e00000, 0xbe86c13e2c00000, 0xbe87013e7600000,
  0xbe87454c0000000]

/-- Pairs that compose: first part, second part, code point. -/
def compositions : Array Nat := #[
  0xf0006700226e, 0xf40067002260, 0xf8006700226f, 0x10400600000c0, 0x10400602000c1,
  0x10400604000c2, 0x10400606000c3, 0x1040060800100, 0x1040060c00102, 0x1040060e00226,
  0x10400610000c4, 0x1040061201ea2, 0x10400614000c5, 0x10400618001cd, 0x1040061e00200,
  0x1040062200202, 0x1040064601ea0, 0x1040064a01e00, 0x1040065000104, 0x1080060e01e02,
  0x1080064601e04, 0x1080066201e06, 0x10c0060200106, 0x10c0060400108, 0x10c0060e0010a,
  0x10c006180010c, 0x10c0064e000c7, 0x1100060e01e0a, 0x110006180010e, 0x1100064601e0c,
  0x1100064e01e10, 0x1100065a01e12, 0x1100066201e0e, 0x11400600000c8, 0x11400602000c9,
  0x11400604000ca, 0x1140060601ebc, 0x1140060800112, 0x1140060c00114, 0x1140060e00116,
  0x11400610000cb, 0x1140061201eba, 0x114006180011a, 0x1140061e00204, 0x1140062200206,
  0x1140064601eb8, 0x1140064e00228, 0x1140065000118, 0x1140065a01e18, 0x1140066001e1a,
  0x1180060e01e1e, 0x11c00602001f4, 0x11c006040011c, 0x11c0060801e20, 0x11c0060c0011e,
  0x11c0060e00120, 0x11c00618001e6, 0x11c0064e00122, 0x1200060400124, 0x1200060e01e22,
  0x1200061001e26, 0x120006180021e, 0x1200064601e24, 0x1200064e01e28, 0x1200065c01e2a,
  0x12400600000cc, 0x12400602000cd, 0x12400604000ce, 0x1240060600128, 0x124006080012a,
  0x1240060c0012c, 0x1240060e00130, 0x12400610000cf, 0x1240061201ec8, 0x12400618001cf,
  0x1240061e00208, 0x124006220020a, 0x1240064601eca, 0x124006500012e, 0x1240066001e2c,
  0x1280060400134, 0x12c0060201e30, 0x12c00618001e8, 0x12c0064601e32, 0x12c0064e00136,
  0x12c0066201e34, 0x1300060200139, 0x130006180013d, 0x1300064601e36, 0x1300064e0013b,
  0x1300065a01e3c, 0x1300066201e3a, 0x1340060201e3e, 0x1340060e01e40, 0x1340064601e42,
  0x13800600001f8, 0x1380060200143, 0x13800606000d1, 0x1380060e01e44, 0x1380061800147,
  0x1380064601e46, 0x1380064e00145, 0x1380065a01e4a, 0x1380066201e48, 0x13c00600000d2,
  0x13c00602000d3, 0x13c00604000d4, 0x13c00606000d5, 0x13c006080014c, 0x13c0060c0014e,
  0x13c0060e0022e, 0x13c00610000d6, 0x13c0061201ece, 0x13c0061600150, 0x13c00618001d1,
  0x13c0061e0020c, 0x13c006220020e, 0x13c00636001a0, 0x13c0064601ecc, 0x13c00650001ea,
  0x1400060201e54, 0x1400060e01e56, 0x1480060200154, 0x1480060e01e58, 0x1480061800158,
  0x1480061e00210, 0x1480062200212, 0x1480064601e5a, 0x1480064e00156, 0x1480066201e5e,
  0x14c006020015a, 0x14c006040015c, 0x14c0060e01e60, 0x14c0061800160, 0x14c0064601e62,
  0x14c0064c00218, 0x14c0064e0015e, 0x1500060e01e6a, 0x1500061800164, 0x1500064601e6c,
  0x1500064c0021a, 0x1500064e00162, 0x1500065a01e70, 0x1500066201e6e, 0x15400600000d9,
  0x15400602000da, 0x15400604000db, 0x1540060600168, 0x154006080016a, 0x1540060c0016c,
  0x15400610000dc, 0x1540061201ee6, 0x154006140016e, 0x1540061600170, 0x15400618001d3,
  0x1540061e00214, 0x1540062200216, 0x15400636001af, 0x1540064601ee4, 0x1540064801e72,
  0x1540065000172, 0x1540065a01e76, 0x1540066001e74, 0x1580060601e7c, 0x1580064601e7e,
  0x15c0060001e80, 0x15c0060201e82, 0x15c0060400174, 0x15c0060e01e86, 0x15c0061001e84,
  0x15c0064601e88, 0x1600060e01e8a, 0x1600061001e8c, 0x1640060001ef2, 0x16400602000dd,
  0x1640060400176, 0x1640060601ef8, 0x1640060800232, 0x1640060e01e8e, 0x1640061000178,
  0x1640061201ef6, 0x1640064601ef4, 0x1680060200179, 0x1680060401e90, 0x1680060e0017b,
  0x168006180017d, 0x1680064601e92, 0x1680066201e94, 0x18400600000e0, 0x18400602000e1,
  0x18400604000e2, 0x18400606000e3, 0x1840060800101, 0x1840060c00103, 0x1840060e00227,
  0x18400610000e4, 0x1840061201ea3, 0x18400614000e5, 0x18400618001ce, 0x1840061e00201,
  0x1840062200203, 0x1840064601ea1, 0x1840064a01e01, 0x1840065000105, 0x1880060e01e03,
  0x1880064601e05, 0x1880066201e07, 0x18c0060200107, 0x18c0060400109, 0x18c0060e0010b,
  0x18c006180010d, 0x18c0064e000e7, 0x1900060e01e0b, 0x190006180010f, 0x1900064601e0d,
  0x1900064e01e11, 0x1900065a01e13, 0x1900066201e0f, 0x19400600000e8, 0x19400602000e9,
  0x19400604000ea, 0x1940060601ebd, 0x1940060800113, 0x1940060c00115, 0x1940060e00117,
  0x19400610000eb, 0x1940061201ebb, 0x194006180011b, 0x1940061e00205, 0x1940062200207,
  0x1940064601eb9, 0x1940064e00229, 0x1940065000119, 0x1940065a01e19, 0x1940066001e1b,
  0x1980060e01e1f, 0x19c00602001f5, 0x19c006040011d, 0x19c0060801e21, 0x19c0060c0011f,
  0x19c0060e00121, 0x19c00618001e7, 0x19c0064e00123, 0x1a00060400125, 0x1a00060e01e23,
  0x1a00061001e27, 0x1a0006180021f, 0x1a00064601e25, 0x1a00064e01e29, 0x1a00065c01e2b,
  0x1a00066201e96, 0x1a400600000ec, 0x1a400602000ed, 0x1a400604000ee, 0x1a40060600129,
  0x1a4006080012b, 0x1a40060c0012d, 0x1a400610000ef, 0x1a40061201ec9, 0x1a400618001d0,
  0x1a40061e00209, 0x1a4006220020b, 0x1a40064601ecb, 0x1a4006500012f, 0x1a40066001e2d,
  0x1a80060400135, 0x1a800618001f0, 0x1ac0060201e31, 0x1ac00618001e9, 0x1ac0064601e33,
  0x1ac0064e00137, 0x1ac0066201e35, 0x1b0006020013a, 0x1b0006180013e, 0x1b00064601e37,
  0x1b00064e0013c, 0x1b00065a01e3d, 0x1b00066201e3b, 0x1b40060201e3f, 0x1b40060e01e41,
  0x1b40064601e43, 0x1b800600001f9, 0x1b80060200144, 0x1b800606000f1, 0x1b80060e01e45,
  0x1b80061800148, 0x1b80064601e47, 0x1b80064e00146, 0x1b80065a01e4b, 0x1b80066201e49,
  0x1bc00600000f2, 0x1bc00602000f3, 0x1bc00604000f4, 0x1bc00606000f5, 0x1bc006080014d,
  0x1bc0060c0014f, 0x1bc0060e0022f, 0x1bc00610000f6, 0x1bc0061201ecf, 0x1bc0061600151,
  0x1bc00618001d2, 0x1bc0061e0020d, 0x1bc006220020f, 0x1bc00636001a1, 0x1bc0064601ecd,
  0x1bc00650001eb, 0x1c00060201e55, 0x1c00060e01e57, 0x1c80060200155, 0x1c80060e01e59,
  0x1c80061800159, 0x1c80061e00211, 0x1c80062200213, 0x1c80064601e5b, 0x1c80064e00157,
  0x1c80066201e5f, 0x1cc006020015b, 0x1cc006040015d, 0x1cc0060e01e61, 0x1cc0061800161,
  0x1cc0064601e63, 0x1cc0064c00219, 0x1cc0064e0015f, 0x1d00060e01e6b, 0x1d00061001e97,
  0x1d00061800165, 0x1d00064601e6d, 0x1d00064c0021b, 0x1d00064e00163, 0x1d00065a01e71,
  0x1d00066201e6f, 0x1d400600000f9, 0x1d400602000fa, 0x1d400604000fb, 0x1d40060600169,
  0x1d4006080016b, 0x1d40060c0016d, 0x1d400610000fc, 0x1d40061201ee7, 0x1d4006140016f,
  0x1d40061600171, 0x1d400618001d4, 0x1d40061e00215, 0x1d40062200217, 0x1d400636001b0,
  0x1d40064601ee5, 0x1d40064801e73, 0x1d40065000173, 0x1d40065a01e77, 0x1d40066001e75,
  0x1d80060601e7d, 0x1d80064601e7f, 0x1dc0060001e81, 0x1dc0060201e83, 0x1dc0060400175,
  0x1dc0060e01e87, 0x1dc0061001e85, 0x1dc0061401e98, 0x1dc0064601e89, 0x1e00060e01e8b,
  0x1e00061001e8d, 0x1e40060001ef3, 0x1e400602000fd, 0x1e40060400177, 0x1e40060601ef9,
  0x1e40060800233, 0x1e40060e01e8f, 0x1e400610000ff, 0x1e40061201ef7, 0x1e40061401e99,
  0x1e40064601ef5, 0x1e8006020017a, 0x1e80060401e91, 0x1e80060e0017c, 0x1e8006180017e,
  0x1e80064601e93, 0x1e80066201e95, 0x2a00060001fed, 0x2a00060200385, 0x2a00068401fc1,
  0x3080060001ea6, 0x3080060201ea4, 0x3080060601eaa, 0x3080061201ea8, 0x31000608001de,
  0x31400602001fa, 0x31800602001fc, 0x31800608001e2, 0x31c0060201e08, 0x3280060001ec0,
  0x3280060201ebe, 0x3280060601ec4, 0x3280061201ec2, 0x33c0060201e2e, 0x3500060001ed2,
  0x3500060201ed0, 0x3500060601ed6, 0x3500061201ed4, 0x3540060201e4c, 0x354006080022c,
  0x3540061001e4e, 0x358006080022a, 0x36000602001fe, 0x37000600001db, 0x37000602001d7,
  0x37000608001d5, 0x37000618001d9, 0x3880060001ea7, 0x3880060201ea5, 0x3880060601eab,
  0x3880061201ea9, 0x39000608001df, 0x39400602001fb, 0x39800602001fd, 0x39800608001e3,
  0x39c0060201e09, 0x3a80060001ec1, 0x3a80060201ebf, 0x3a80060601ec5, 0x3a80061201ec3,
  0x3bc0060201e2f, 0x3d00060001ed3, 0x3d00060201ed1, 0x3d00060601ed7, 0x3d00061201ed5,
  0x3d40060201e4d, 0x3d4006080022d, 0x3d40061001e4f, 0x3d8006080022b, 0x3e000602001ff,
  0x3f000600001dc, 0x3f000602001d8, 0x3f000608001d6, 0x3f000618001da, 0x4080060001eb0,
  0x4080060201eae, 0x4080060601eb4, 0x4080061201eb2, 0x40c0060001eb1, 0x40c0060201eaf,
  0x40c0060601eb5, 0x40c0061201eb3, 0x4480060001e14, 0x4480060201e16, 0x44c0060001e15,
  0x44c0060201e17, 0x5300060001e50, 0x5300060201e52, 0x5340060001e51, 0x5340060201e53,
  0x5680060e01e64, 0x56c0060e01e65, 0x5800060e01e66, 0x5840060e01e67, 0x5a00060201e78,
  0x5a40060201e79, 0x5a80061001e7a, 0x5ac0061001e7b, 0x5fc0060e01e9b, 0x6800060001edc,
  0x6800060201eda, 0x6800060601ee0, 0x6800061201ede, 0x6800064601ee2, 0x6840060001edd,
  0x6840060201edb, 0x6840060601ee1, 0x6840061201edf, 0x6840064601ee3, 0x6bc0060001eea,
  0x6bc0060201ee8, 0x6bc0060601eee, 0x6bc0061201eec, 0x6bc0064601ef0, 0x6c00060001eeb,
  0x6c00060201ee9, 0x6c00060601eef, 0x6c00061201eed, 0x6c00064601ef1, 0x6dc00618001ee,
  0x7a800608001ec, 0x7ac00608001ed, 0x89800608001e0, 0x89c00608001e1, 0x8a00060c01e1c,
  0x8a40060c01e1d, 0x8b80060800230, 0x8bc0060800231, 0xa4800618001ef, 0xe440060001fba,
  0xe440060200386, 0xe440060801fb9, 0xe440060c01fb8, 0xe440062601f08, 0xe440062801f09,
  0xe440068a01fbc, 0xe540060001fc8, 0xe540060200388, 0xe540062601f18, 0xe540062801f19,
  0xe5c0060001fca, 0xe5c0060200389, 0xe5c0062601f28, 0xe5c0062801f29, 0xe5c0068a01fcc,
  0xe640060001fda, 0xe64006020038a, 0xe640060801fd9, 0xe640060c01fd8, 0xe6400610003aa,
  0xe640062601f38, 0xe640062801f39, 0xe7c0060001ff8, 0xe7c006020038c, 0xe7c0062601f48,
  0xe7c0062801f49, 0xe840062801fec, 0xe940060001fea, 0xe94006020038e, 0xe940060801fe9,
  0xe940060c01fe8, 0xe9400610003ab, 0xe940062801f59, 0xea40060001ffa, 0xea4006020038f,
  0xea40062601f68, 0xea40062801f69, 0xea40068a01ffc, 0xeb00068a01fb4, 0xeb80068a01fc4,
  0xec40060001f70, 0xec400602003ac, 0xec40060801fb1, 0xec40060c01fb0, 0xec40062601f00,
  0xec40062801f01, 0xec40068401fb6, 0xec40068a01fb3, 0xed40060001f72, 0xed400602003ad,
  0xed40062601f10, 0xed40062801f11, 0xedc0060001f74, 0xedc00602003ae, 0xedc0062601f20,
  0xedc0062801f21, 0xedc0068401fc6, 0xedc0068a01fc3, 0xee40060001f76, 0xee400602003af,
  0xee40060801fd1, 0xee40060c01fd0, 0xee400610003ca, 0xee40062601f30, 0xee40062801f31,
  0xee40068401fd6, 0xefc0060001f78, 0xefc00602003cc, 0xefc0062601f40, 0xefc0062801f41,
  0xf040062601fe4, 0xf040062801fe5, 0xf140060001f7a, 0xf1400602003cd, 0xf140060801fe1,
  0xf140060c01fe0, 0xf1400610003cb, 0xf140062601f50, 0xf140062801f51, 0xf140068401fe6,
  0xf240060001f7c, 0xf2400602003ce, 0xf240062601f60, 0xf240062801f61, 0xf240068401ff6,
  0xf240068a01ff3, 0xf280060001fd2, 0xf280060200390, 0xf280068401fd7, 0xf2c0060001fe2,
  0xf2c00602003b0, 0xf2c0068401fe7, 0xf380068a01ff4, 0xf4800602003d3, 0xf4800610003d4,
  0x10180061000407, 0x10400060c004d0, 0x104000610004d2, 0x104c0060200403, 0x10540060000400,
  0x10540060c004d6, 0x10540061000401, 0x10580060c004c1, 0x105800610004dc, 0x105c00610004de,
  0x1060006000040d, 0x106000608004e2, 0x10600060c00419, 0x106000610004e4, 0x1068006020040c,
  0x107800610004e6, 0x108c00608004ee, 0x108c0060c0040e, 0x108c00610004f0, 0x108c00616004f2,
  0x109c00610004f4, 0x10ac00610004f8, 0x10b400610004ec, 0x10c00060c004d1, 0x10c000610004d3,
  0x10cc0060200453, 0x10d40060000450, 0x10d40060c004d7, 0x10d40061000451, 0x10d80060c004c2,
  0x10d800610004dd, 0x10dc00610004df, 0x10e0006000045d, 0x10e000608004e3, 0x10e00060c00439,
  0x10e000610004e5, 0x10e8006020045c, 0x10f800610004e7, 0x110c00608004ef, 0x110c0060c0045e,
  0x110c00610004f1, 0x110c00616004f3, 0x111c00610004f5, 0x112c00610004f9, 0x113400610004ed,
  0x11580061000457, 0x11d00061e00476, 0x11d40061e00477, 0x136000610004da, 0x136400610004db,
  0x13a000610004ea, 0x13a400610004eb, 0x189c00ca600622, 0x189c00ca800623, 0x189c00caa00625,
  0x192000ca800624, 0x192800ca800626, 0x1b0400ca8006c2, 0x1b4800ca8006d3, 0x1b5400ca8006c0,
  0x24a00127800929, 0x24c00127800931, 0x24cc0127800934, 0x271c0137c009cb, 0x271c013ae009cc,
  0x2d1c0167c00b4b, 0x2d1c016ac00b48, 0x2d1c016ae00b4c, 0x2e48017ae00b94, 0x2f180177c00bca,
  0x2f18017ae00bcc, 0x2f1c0177c00bcb, 0x3118018ac00c48, 0x32fc019aa00cc0, 0x33180198400cca,
  0x3318019aa00cc7, 0x3318019ac00cc8, 0x3328019aa00ccb, 0x351801a7c00d4a, 0x351801aae00d4c,
  0x351c01a7c00d4b, 0x376401b9400dda, 0x376401b9e00ddc, 0x376401bbe00dde, 0x377001b9400ddd,
  0x40940205c01026, 0x6c140366a01b06, 0x6c1c0366a01b08, 0x6c240366a01b0a, 0x6c2c0366a01b0c,
  0x6c340366a01b0e, 0x6c440366a01b12, 0x6ce80366a01b3b, 0x6cf00366a01b3d, 0x6cf80366a01b40,
  0x6cfc0366a01b41, 0x6d080366a01b43, 0x78d80060801e38, 0x78dc0060801e39, 0x79680060801e5c,
  0x796c0060801e5d, 0x79880060e01e68, 0x798c0060e01e69, 0x7a800060401eac, 0x7a800060c01eb6,
  0x7a840060401ead, 0x7a840060c01eb7, 0x7ae00060401ec6, 0x7ae40060401ec7, 0x7b300060401ed8,
  0x7b340060401ed9, 0x7c000060001f02, 0x7c000060201f04, 0x7c000068401f06, 0x7c000068a01f80,
  0x7c040060001f03, 0x7c040060201f05, 0x7c040068401f07, 0x7c040068a01f81, 0x7c080068a01f82,
  0x7c0c0068a01f83, 0x7c100068a01f84, 0x7c140068a01f85, 0x7c180068a01f86, 0x7c1c0068a01f87,
  0x7c200060001f0a, 0x7c200060201f0c, 0x7c200068401f0e, 0x7c200068a01f88, 0x7c240060001f0b,
  0x7c240060201f0d, 0x7c240068401f0f, 0x7c240068a01f89, 0x7c280068a01f8a, 0x7c2c0068a01f8b,
  0x7c300068a01f8c, 0x7c340068a01f8d, 0x7c380068a01f8e, 0x7c3c0068a01f8f, 0x7c400060001f12,
  0x7c400060201f14, 0x7c440060001f13, 0x7c440060201f15, 0x7c600060001f1a, 0x7c600060201f1c,
  0x7c640060001f1b, 0x7c640060201f1d, 0x7c800060001f22, 0x7c800060201f24, 0x7c800068401f26,
  0x7c800068a01f90, 0x7c840060001f23, 0x7c840060201f25, 0x7c840068401f27, 0x7c840068a01f91,
  0x7c880068a01f92, 0x7c8c0068a01f93, 0x7c900068a01f94, 0x7c940068a01f95, 0x7c980068a01f96,
  0x7c9c0068a01f97, 0x7ca00060001f2a, 0x7ca00060201f2c, 0x7ca00068401f2e, 0x7ca00068a01f98,
  0x7ca40060001f2b, 0x7ca40060201f2d, 0x7ca40068401f2f, 0x7ca40068a01f99, 0x7ca80068a01f9a,
  0x7cac0068a01f9b, 0x7cb00068a01f9c, 0x7cb40068a01f9d, 0x7cb80068a01f9e, 0x7cbc0068a01f9f,
  0x7cc00060001f32, 0x7cc00060201f34, 0x7cc00068401f36, 0x7cc40060001f33, 0x7cc40060201f35,
  0x7cc40068401f37, 0x7ce00060001f3a, 0x7ce00060201f3c, 0x7ce00068401f3e, 0x7ce40060001f3b,
  0x7ce40060201f3d, 0x7ce40068401f3f, 0x7d000060001f42, 0x7d000060201f44, 0x7d040060001f43,
  0x7d040060201f45, 0x7d200060001f4a, 0x7d200060201f4c, 0x7d240060001f4b, 0x7d240060201f4d,
  0x7d400060001f52, 0x7d400060201f54, 0x7d400068401f56, 0x7d440060001f53, 0x7d440060201f55,
  0x7d440068401f57, 0x7d640060001f5b, 0x7d640060201f5d, 0x7d640068401f5f, 0x7d800060001f62,
  0x7d800060201f64, 0x7d800068401f66, 0x7d800068a01fa0, 0x7d840060001f63, 0x7d840060201f65,
  0x7d840068401f67, 0x7d840068a01fa1, 0x7d880068a01fa2, 0x7d8c0068a01fa3, 0x7d900068a01fa4,
  0x7d940068a01fa5, 0x7d980068a01fa6, 0x7d9c0068a01fa7, 0x7da00060001f6a, 0x7da00060201f6c,
  0x7da00068401f6e, 0x7da00068a01fa8, 0x7da40060001f6b, 0x7da40060201f6d, 0x7da40068401f6f,
  0x7da40068a01fa9, 0x7da80068a01faa, 0x7dac0068a01fab, 0x7db00068a01fac, 0x7db40068a01fad,
  0x7db80068a01fae, 0x7dbc0068a01faf, 0x7dc00068a01fb2, 0x7dd00068a01fc2, 0x7df00068a01ff2,
  0x7ed80068a01fb7, 0x7efc0060001fcd, 0x7efc0060201fce, 0x7efc0068401fcf, 0x7f180068a01fc7,
  0x7fd80068a01ff7, 0x7ff80060001fdd, 0x7ff80060201fde, 0x7ff80068401fdf, 0x8640006700219a,
  0x8648006700219b, 0x865000670021ae, 0x874000670021cd, 0x874800670021cf, 0x875000670021ce,
  0x880c0067002204, 0x88200067002209, 0x882c006700220c, 0x888c0067002224, 0x88940067002226,
  0x88f00067002241, 0x890c0067002244, 0x89140067002247, 0x89200067002249, 0x8934006700226d,
  0x89840067002262, 0x89900067002270, 0x89940067002271, 0x89c80067002274, 0x89cc0067002275,
  0x89d80067002278, 0x89dc0067002279, 0x89e80067002280, 0x89ec0067002281, 0x89f000670022e0,
  0x89f400670022e1, 0x8a080067002284, 0x8a0c0067002285, 0x8a180067002288, 0x8a1c0067002289,
  0x8a4400670022e2, 0x8a4800670022e3, 0x8a8800670022ac, 0x8aa000670022ad, 0x8aa400670022ae,
  0x8aac00670022af, 0x8ac800670022ea, 0x8acc00670022eb, 0x8ad000670022ec, 0x8ad400670022ed,
  0xc1180613203094, 0xc12c061320304c, 0xc134061320304e, 0xc13c0613203050, 0xc1440613203052,
  0xc14c0613203054, 0xc1540613203056, 0xc15c0613203058, 0xc164061320305a, 0xc16c061320305c,
  0xc174061320305e, 0xc17c0613203060, 0xc1840613203062, 0xc1900613203065, 0xc1980613203067,
  0xc1a00613203069, 0xc1bc0613203070, 0xc1bc0613403071, 0xc1c80613203073, 0xc1c80613403074,
  0xc1d40613203076, 0xc1d40613403077, 0xc1e00613203079, 0xc1e0061340307a, 0xc1ec061320307c,
  0xc1ec061340307d, 0xc274061320309e, 0xc29806132030f4, 0xc2ac06132030ac, 0xc2b406132030ae,
  0xc2bc06132030b0, 0xc2c406132030b2, 0xc2cc06132030b4, 0xc2d406132030b6, 0xc2dc06132030b8,
  0xc2e406132030ba, 0xc2ec06132030bc, 0xc2f406132030be, 0xc2fc06132030c0, 0xc30406132030c2,
  0xc31006132030c5, 0xc31806132030c7, 0xc32006132030c9, 0xc33c06132030d0, 0xc33c06134030d1,
  0xc34806132030d3, 0xc34806134030d4, 0xc35406132030d6, 0xc35406134030d7, 0xc36006132030d9,
  0xc36006134030da, 0xc36c06132030dc, 0xc36c06134030dd, 0xc3bc06132030f7, 0xc3c006132030f8,
  0xc3c406132030f9, 0xc3c806132030fa, 0xc3f406132030fe, 0x44264221741109a, 0x4426c221741109c,
  0x4429422174110ab, 0x444c42224e1112e, 0x444c82224e1112f, 0x44d1c2267c1134b, 0x44d1c226ae1134c,
  0x452e422960114bc, 0x452e422974114bb, 0x452e42297a114be, 0x456e022b5e115ba, 0x456e422b5e115bb,
  0x464d42326011938]

end DocQuery.Text.Normal
