import Yaskkserv2.EncodingSimple.Tables

/-!
# The shipped encoding table

`EncodingTable::get`, the bytes that `EncodingTable::setup` reads: a header of 32 bytes, the rows
of the combining characters, 11 bytes each, and the rows of the single characters, 7 bytes each.
A row is written as one number, its bytes from the highest to the lowest; `eucUtf8Lines` keeps the
lines of the source, three a number.
-/

namespace Yaskkserv2

/-- The byte of a number that has `k` bytes below it. -/
def byteAt (n k : ℕ) : UInt8 := UInt8.ofNat (n >>> (8 * k))

/-- The last `length` bytes of a number, the highest first. -/
def bigEndian (length n : ℕ) : Bytes := (List.range length).reverse.map (byteAt n)

namespace EncodingTable

/-- The version, the header's length, the numbers of the rows of both kinds, and reserved bytes. -/
def header : Bytes :=
  [0x01, 0x00, 0x00, 0x00, 0x20, 0x00, 0x00, 0x00, 0x19, 0x00, 0x00, 0x00, 0xa7, 0x2c, 0x00, 0x00,
    0x00, 0x00, 0x00, 0x00, 0x00, 0x00, 0x00, 0x00, 0x00, 0x00, 0x00, 0x00, 0x00, 0x00, 0x00, 0x00]

/-- `euc_utf8_combine`: 3 bytes of EUC, twice 4 bytes of UTF-8. -/
def eucUtf8Combine : List ℕ := [
  0xa4f700e3818b00e3829a00, 0xa4f800e3818d00e3829a00, 0xa4f900e3818f00e3829a00,
  0xa4fa00e3819100e3829a00, 0xa4fb00e3819300e3829a00, 0xa5f700e382ab00e3829a00,
  0xa5f800e382ad00e3829a00, 0xa5f900e382af00e3829a00, 0xa5fa00e382b100e3829a00,
  0xa5fb00e382b300e3829a00, 0xa5fc00e382bb00e3829a00, 0xa5fd00e3838400e3829a00,
  0xa5fe00e3838800e3829a00, 0xa6f800e387b700e3829a00, 0xabc400c3a60000cc800000,
  0xabc800c9940000cc800000, 0xabc900c9940000cc810000, 0xabca00ca8c0000cc800000,
  0xabcb00ca8c0000cc810000, 0xabcc00c9990000cc800000, 0xabcd00c9990000cc810000,
  0xabce00c99a0000cc800000, 0xabcf00c99a0000cc810000, 0xabe500cba90000cba50000,
  0xabe600cba50000cba90000]

/-- The lines of `euc_utf8` but the last, three a number: a line has two rows of 3 bytes of EUC
and 4 bytes of UTF-8. -/
def eucUtf8Lines : List ℕ := [
  0x0000000000000001000001000000_0200000200000003000003000000_0400000400000005000005000000,
  0x0600000600000007000007000000_0800000800000009000009000000_0a00000a0000000b00000b000000,
  0x0c00000c0000000d00000d000000_0e00000e0000000f00000f000000_1000001000000011000011000000,
  0x1200001200000013000013000000_1400001400000015000015000000_1600001600000017000017000000,
  0x1800001800000019000019000000_1a00001a0000001b00001b000000_1c00001c0000001d00001d000000,
  0x1e00001e0000001f00001f000000_2000002000000021000021000000_2200002200000023000023000000,
  0x2400002400000025000025000000_2600002600000027000027000000_2800002800000029000029000000,
  0x2a00002a0000002b00002b000000_2c00002c0000002d00002d000000_2e00002e0000002f00002f000000,
  0x3000003000000031000031000000_3200003200000033000033000000_3400003400000035000035000000,
  0x3600003600000037000037000000_3800003800000039000039000000_3a00003a0000003b00003b000000,
  0x3c00003c0000003d00003d000000_3e00003e0000003f00003f000000_4000004000000041000041000000,
  0x4200004200000043000043000000_4400004400000045000045000000_4600004600000047000047000000,
  0x4800004800000049000049000000_4a00004a0000004b00004b000000_4c00004c0000004d00004d000000,
  0x4e00004e0000004f00004f000000_5000005000000051000051000000_5200005200000053000053000000,
  0x5400005400000055000055000000_5600005600000057000057000000_5800005800000059000059000000,
  0x5a00005a0000005b00005b000000_5c00005c0000005d00005d000000_5e00005e0000005f00005f000000,
  0x6000006000000061000061000000_6200006200000063000063000000_6400006400000065000065000000,
  0x6600006600000067000067000000_6800006800000069000069000000_6a00006a0000006b00006b000000,
  0x6c00006c0000006d00006d000000_6e00006e0000006f00006f000000_7000007000000071000071000000,
  0x7200007200000073000073000000_7400007400000075000075000000_7600007600000077000077000000,
  0x7800007800000079000079000000_7a00007a0000007b00007b000000_7c00007c0000007d00007d000000,
  0x7e00007e0000007f00007f000000_800000c2800000810000c2810000_820000c2820000830000c2830000,
  0x840000c2840000850000c2850000_860000c2860000870000c2870000_880000c2880000890000c2890000,
  0x8a0000c28a00008b0000c28b0000_8c0000c28c00008d0000c28d0000_8e0000c28e00008f0000c28f0000,
  0x900000c2900000910000c2910000_920000c2920000930000c2930000_940000c2940000950000c2950000,
  0x960000c2960000970000c2970000_980000c2980000990000c2990000_9a0000c29a00009b0000c29b0000,
  0x9c0000c29c00009d0000c29d0000_9e0000c29e00009f0000c29f0000_a1a100e3808000a1a200e3808100,
  0xa1a300e3808200a1a400efbc8c00_a1a500efbc8e00a1a600e383bb00_a1a700efbc9a00a1a800efbc9b00,
  0xa1a900efbc9f00a1aa00efbc8100_a1ab00e3829b00a1ac00e3829c00_a1ad00c2b40000a1ae00efbd8000,
  0xa1af00c2a80000a1b000efbcbe00_a1b100e280be00a1b200efbcbf00_a1b300e383bd00a1b400e383be00,
  0xa1b500e3829d00a1b600e3829e00_a1b700e3808300a1b800e4bb9d00_a1b900e3808500a1ba00e3808600,
  0xa1bb00e3808700a1bc00e383bc00_a1bd00e2809400a1be00e2809000_a1bf00efbc8f00a1c000efbcbc00,
  0xa1c100e3809c00a1c200e2809600_a1c300efbd9c00a1c400e280a600_a1c500e280a500a1c600e2809800,
  0xa1c700e2809900a1c800e2809c00_a1c900e2809d00a1ca00efbc8800_a1cb00efbc8900a1cc00e3809400,
  0xa1cd00e3809500a1ce00efbcbb00_a1cf00efbcbd00a1d000efbd9b00_a1d100efbd9d00a1d200e3808800,
  0xa1d300e3808900a1d400e3808a00_a1d500e3808b00a1d600e3808c00_a1d700e3808d00a1d800e3808e00,
  0xa1d900e3808f00a1da00e3809000_a1db00e3809100a1dc00efbc8b00_a1dd00e2889200a1de00c2b10000,
  0xa1df00c3970000a1e000c3b70000_a1e100efbc9d00a1e200e289a000_a1e300efbc9c00a1e400efbc9e00,
  0xa1e500e289a600a1e600e289a700_a1e700e2889e00a1e800e288b400_a1e900e2998200a1ea00e2998000,
  0xa1eb00c2b00000a1ec00e280b200_a1ed00e280b300a1ee00e2848300_a1ef00c2a50000a1f000efbc8400,
  0xa1f100c2a20000a1f200c2a30000_a1f300efbc8500a1f400efbc8300_a1f500efbc8600a1f600efbc8a00,
  0xa1f700efbca000a1f800c2a70000_a1f900e2988600a1fa00e2988500_a1fb00e2978b00a1fc00e2978f00,
  0xa1fd00e2978e00a1fe00e2978700_a2a100e2978600a2a200e296a100_a2a300e296a000a2a400e296b300,
  0xa2a500e296b200a2a600e296bd00_a2a700e296bc00a2a800e280bb00_a2a900e3809200a2aa00e2869200,
  0xa2ab00e2869000a2ac00e2869100_a2ad00e2869300a2ae00e3809300_a2af00efbc8700a2b000efbc8200,
  0xa2b100efbc8d00a2b200efbd9e00_a2b300e380b300a2b400e380b400_a2b500e380b500a2b600e380bb00,
  0xa2b700e380bc00a2b800e383bf00_a2b900e3829f00a2ba00e2888800_a2bb00e2888b00a2bc00e28a8600,
  0xa2bd00e28a8700a2be00e28a8200_a2bf00e28a8300a2c000e288aa00_a2c100e288a900a2c200e28a8400,
  0xa2c300e28a8500a2c400e28a8a00_a2c500e28a8b00a2c600e2888900_a2c700e2888500a2c800e28c8500,
  0xa2c900e28c8600a2ca00e288a700_a2cb00e288a800a2cc00c2ac0000_a2cd00e2879200a2ce00e2879400,
  0xa2cf00e2888000a2d000e2888300_a2d100e28a9500a2d200e28a9600_a2d300e28a9700a2d400e288a500,
  0xa2d500e288a600a2d600efbd9f00_a2d700efbda000a2d800e3809800_a2d900e3809900a2da00e3809600,
  0xa2db00e3809700a2dc00e288a000_a2dd00e28aa500a2de00e28c9200_a2df00e2888200a2e000e2888700,
  0xa2e100e289a100a2e200e2899200_a2e300e289aa00a2e400e289ab00_a2e500e2889a00a2e600e288bd00,
  0xa2e700e2889d00a2e800e288b500_a2e900e288ab00a2ea00e288ac00_a2eb00e289a200a2ec00e2898300,
  0xa2ed00e2898500a2ee00e2898800_a2ef00e289b600a2f000e289b700_a2f100e2869400a2f200e284ab00,
  0xa2f300e280b000a2f400e299af00_a2f500e299ad00a2f600e299aa00_a2f700e280a000a2f800e280a100,
  0xa2f900c2b60000a2fa00e299ae00_a2fb00e299ab00a2fc00e299ac00_a2fd00e299a900a2fe00e297af00,
  0xa3a100e296b700a3a200e296b600_a3a300e2978100a3a400e2978000_a3a500e2869700a3a600e2869800,
  0xa3a700e2869600a3a800e2869900_a3a900e2878400a3aa00e287a800_a3ab00e287a600a3ac00e287a700,
  0xa3ad00e287a900a3ae00e2a4b400_a3af00e2a4b500a3b000efbc9000_a3b100efbc9100a3b200efbc9200,
  0xa3b300efbc9300a3b400efbc9400_a3b500efbc9500a3b600efbc9600_a3b700efbc9700a3b800efbc9800,
  0xa3b900efbc9900a3ba00e2a6bf00_a3bb00e2978900a3bc00e380bd00_a3bd00efb98600a3be00efb98500,
  0xa3bf00e297a600a3c000e280a200_a3c100efbca100a3c200efbca200_a3c300efbca300a3c400efbca400,
  0xa3c500efbca500a3c600efbca600_a3c700efbca700a3c800efbca800_a3c900efbca900a3ca00efbcaa00,
  0xa3cb00efbcab00a3cc00efbcac00_a3cd00efbcad00a3ce00efbcae00_a3cf00efbcaf00a3d000efbcb000,
  0xa3d100efbcb100a3d200efbcb200_a3d300efbcb300a3d400efbcb400_a3d500efbcb500a3d600efbcb600,
  0xa3d700efbcb700a3d800efbcb800_a3d900efbcb900a3da00efbcba00_a3db00e2889300a3dc00e284b500,
  0xa3dd00e2848f00a3de00e38f8b00_a3df00e2849300a3e000e284a700_a3e100efbd8100a3e200efbd8200,
  0xa3e300efbd8300a3e400efbd8400_a3e500efbd8500a3e600efbd8600_a3e700efbd8700a3e800efbd8800,
  0xa3e900efbd8900a3ea00efbd8a00_a3eb00efbd8b00a3ec00efbd8c00_a3ed00efbd8d00a3ee00efbd8e00,
  0xa3ef00efbd8f00a3f000efbd9000_a3f100efbd9100a3f200efbd9200_a3f300efbd9300a3f400efbd9400,
  0xa3f500efbd9500a3f600efbd9600_a3f700efbd9700a3f800efbd9800_a3f900efbd9900a3fa00efbd9a00,
  0xa3fb00e382a000a3fc00e2809300_a3fd00e2a7ba00a3fe00e2a7bb00_a4a100e3818100a4a200e3818200,
  0xa4a300e3818300a4a400e3818400_a4a500e3818500a4a600e3818600_a4a700e3818700a4a800e3818800,
  0xa4a900e3818900a4aa00e3818a00_a4ab00e3818b00a4ac00e3818c00_a4ad00e3818d00a4ae00e3818e00,
  0xa4af00e3818f00a4b000e3819000_a4b100e3819100a4b200e3819200_a4b300e3819300a4b400e3819400,
  0xa4b500e3819500a4b600e3819600_a4b700e3819700a4b800e3819800_a4b900e3819900a4ba00e3819a00,
  0xa4bb00e3819b00a4bc00e3819c00_a4bd00e3819d00a4be00e3819e00_a4bf00e3819f00a4c000e381a000,
  0xa4c100e381a100a4c200e381a200_a4c300e381a300a4c400e381a400_a4c500e381a500a4c600e381a600,
  0xa4c700e381a700a4c800e381a800_a4c900e381a900a4ca00e381aa00_a4cb00e381ab00a4cc00e381ac00,
  0xa4cd00e381ad00a4ce00e381ae00_a4cf00e381af00a4d000e381b000_a4d100e381b100a4d200e381b200,
  0xa4d300e381b300a4d400e381b400_a4d500e381b500a4d600e381b600_a4d700e381b700a4d800e381b800,
  0xa4d900e381b900a4da00e381ba00_a4db00e381bb00a4dc00e381bc00_a4dd00e381bd00a4de00e381be00,
  0xa4df00e381bf00a4e000e3828000_a4e100e3828100a4e200e3828200_a4e300e3828300a4e400e3828400,
  0xa4e500e3828500a4e600e3828600_a4e700e3828700a4e800e3828800_a4e900e3828900a4ea00e3828a00,
  0xa4eb00e3828b00a4ec00e3828c00_a4ed00e3828d00a4ee00e3828e00_a4ef00e3828f00a4f000e3829000,
  0xa4f100e3829100a4f200e3829200_a4f300e3829300a4f400e3829400_a4f500e3829500a4f600e3829600,
  0xa5a100e382a100a5a200e382a200_a5a300e382a300a5a400e382a400_a5a500e382a500a5a600e382a600,
  0xa5a700e382a700a5a800e382a800_a5a900e382a900a5aa00e382aa00_a5ab00e382ab00a5ac00e382ac00,
  0xa5ad00e382ad00a5ae00e382ae00_a5af00e382af00a5b000e382b000_a5b100e382b100a5b200e382b200,
  0xa5b300e382b300a5b400e382b400_a5b500e382b500a5b600e382b600_a5b700e382b700a5b800e382b800,
  0xa5b900e382b900a5ba00e382ba00_a5bb00e382bb00a5bc00e382bc00_a5bd00e382bd00a5be00e382be00,
  0xa5bf00e382bf00a5c000e3838000_a5c100e3838100a5c200e3838200_a5c300e3838300a5c400e3838400,
  0xa5c500e3838500a5c600e3838600_a5c700e3838700a5c800e3838800_a5c900e3838900a5ca00e3838a00,
  0xa5cb00e3838b00a5cc00e3838c00_a5cd00e3838d00a5ce00e3838e00_a5cf00e3838f00a5d000e3839000,
  0xa5d100e3839100a5d200e3839200_a5d300e3839300a5d400e3839400_a5d500e3839500a5d600e3839600,
  0xa5d700e3839700a5d800e3839800_a5d900e3839900a5da00e3839a00_a5db00e3839b00a5dc00e3839c00,
  0xa5dd00e3839d00a5de00e3839e00_a5df00e3839f00a5e000e383a000_a5e100e383a100a5e200e383a200,
  0xa5e300e383a300a5e400e383a400_a5e500e383a500a5e600e383a600_a5e700e383a700a5e800e383a800,
  0xa5e900e383a900a5ea00e383aa00_a5eb00e383ab00a5ec00e383ac00_a5ed00e383ad00a5ee00e383ae00,
  0xa5ef00e383af00a5f000e383b000_a5f100e383b100a5f200e383b200_a5f300e383b300a5f400e383b400,
  0xa5f500e383b500a5f600e383b600_a6a100ce910000a6a200ce920000_a6a300ce930000a6a400ce940000,
  0xa6a500ce950000a6a600ce960000_a6a700ce970000a6a800ce980000_a6a900ce990000a6aa00ce9a0000,
  0xa6ab00ce9b0000a6ac00ce9c0000_a6ad00ce9d0000a6ae00ce9e0000_a6af00ce9f0000a6b000cea00000,
  0xa6b100cea10000a6b200cea30000_a6b300cea40000a6b400cea50000_a6b500cea60000a6b600cea70000,
  0xa6b700cea80000a6b800cea90000_a6b900e299a400a6ba00e299a000_a6bb00e299a200a6bc00e299a600,
  0xa6bd00e299a100a6be00e299a500_a6bf00e299a700a6c000e299a300_a6c100ceb10000a6c200ceb20000,
  0xa6c300ceb30000a6c400ceb40000_a6c500ceb50000a6c600ceb60000_a6c700ceb70000a6c800ceb80000,
  0xa6c900ceb90000a6ca00ceba0000_a6cb00cebb0000a6cc00cebc0000_a6cd00cebd0000a6ce00cebe0000,
  0xa6cf00cebf0000a6d000cf800000_a6d100cf810000a6d200cf830000_a6d300cf840000a6d400cf850000,
  0xa6d500cf860000a6d600cf870000_a6d700cf880000a6d800cf890000_a6d900cf820000a6da00e293b500,
  0xa6db00e293b600a6dc00e293b700_a6dd00e293b800a6de00e293b900_a6df00e293ba00a6e000e293bb00,
  0xa6e100e293bc00a6e200e293bd00_a6e300e293be00a6e400e2989600_a6e500e2989700a6e600e380a000,
  0xa6e700e2988e00a6e800e2988000_a6e900e2988100a6ea00e2988200_a6eb00e2988300a6ec00e299a800,
  0xa6ed00e296b100a6ee00e387b000_a6ef00e387b100a6f000e387b200_a6f100e387b300a6f200e387b400,
  0xa6f300e387b500a6f400e387b600_a6f500e387b700a6f600e387b800_a6f700e387b900a6f900e387ba00,
  0xa6fa00e387bb00a6fb00e387bc00_a6fc00e387bd00a6fd00e387be00_a6fe00e387bf00a7a100d0900000,
  0xa7a200d0910000a7a300d0920000_a7a400d0930000a7a500d0940000_a7a600d0950000a7a700d0810000,
  0xa7a800d0960000a7a900d0970000_a7aa00d0980000a7ab00d0990000_a7ac00d09a0000a7ad00d09b0000,
  0xa7ae00d09c0000a7af00d09d0000_a7b000d09e0000a7b100d09f0000_a7b200d0a00000a7b300d0a10000,
  0xa7b400d0a20000a7b500d0a30000_a7b600d0a40000a7b700d0a50000_a7b800d0a60000a7b900d0a70000,
  0xa7ba00d0a80000a7bb00d0a90000_a7bc00d0aa0000a7bd00d0ab0000_a7be00d0ac0000a7bf00d0ad0000,
  0xa7c000d0ae0000a7c100d0af0000_a7c200e28ebe00a7c300e28ebf00_a7c400e28f8000a7c500e28f8100,
  0xa7c600e28f8200a7c700e28f8300_a7c800e28f8400a7c900e28f8500_a7ca00e28f8600a7cb00e28f8700,
  0xa7cc00e28f8800a7cd00e28f8900_a7ce00e28f8a00a7cf00e28f8b00_a7d000e28f8c00a7d100d0b00000,
  0xa7d200d0b10000a7d300d0b20000_a7d400d0b30000a7d500d0b40000_a7d600d0b50000a7d700d1910000,
  0xa7d800d0b60000a7d900d0b70000_a7da00d0b80000a7db00d0b90000_a7dc00d0ba0000a7dd00d0bb0000,
  0xa7de00d0bc0000a7df00d0bd0000_a7e000d0be0000a7e100d0bf0000_a7e200d1800000a7e300d1810000,
  0xa7e400d1820000a7e500d1830000_a7e600d1840000a7e700d1850000_a7e800d1860000a7e900d1870000,
  0xa7ea00d1880000a7eb00d1890000_a7ec00d18a0000a7ed00d18b0000_a7ee00d18c0000a7ef00d18d0000,
  0xa7f000d18e0000a7f100d18f0000_a7f200e383b700a7f300e383b800_a7f400e383b900a7f500e383ba00,
  0xa7f600e28b9a00a7f700e28b9b00_a7f800e2859300a7f900e2859400_a7fa00e2859500a7fb00e29c9300,
  0xa7fc00e28c9800a7fd00e290a300_a7fe00e28f8e00a8a100e2948000_a8a200e2948200a8a300e2948c00,
  0xa8a400e2949000a8a500e2949800_a8a600e2949400a8a700e2949c00_a8a800e294ac00a8a900e294a400,
  0xa8aa00e294b400a8ab00e294bc00_a8ac00e2948100a8ad00e2948300_a8ae00e2948f00a8af00e2949300,
  0xa8b000e2949b00a8b100e2949700_a8b200e294a300a8b300e294b300_a8b400e294ab00a8b500e294bb00,
  0xa8b600e2958b00a8b700e294a000_a8b800e294af00a8b900e294a800_a8ba00e294b700a8bb00e294bf00,
  0xa8bc00e2949d00a8bd00e294b000_a8be00e294a500a8bf00e294b800_a8c000e2958200a8c100e3899100,
  0xa8c200e3899200a8c300e3899300_a8c400e3899400a8c500e3899500_a8c600e3899600a8c700e3899700,
  0xa8c800e3899800a8c900e3899900_a8ca00e3899a00a8cb00e3899b00_a8cc00e3899c00a8cd00e3899d00,
  0xa8ce00e3899e00a8cf00e3899f00_a8d000e38ab100a8d100e38ab200_a8d200e38ab300a8d300e38ab400,
  0xa8d400e38ab500a8d500e38ab600_a8d600e38ab700a8d700e38ab800_a8d800e38ab900a8d900e38aba00,
  0xa8da00e38abb00a8db00e38abc00_a8dc00e38abd00a8dd00e38abe00_a8de00e38abf00a8e700e2979000,
  0xa8e800e2979100a8e900e2979200_a8ea00e2979300a8eb00e280bc00_a8ec00e2818700a8ed00e2818800,
  0xa8ee00e2818900a8ef00c78d0000_a8f000c78e0000a8f100c7900000_a8f200e1b8be00a8f300e1b8bf00,
  0xa8f400c7b80000a8f500c7b90000_a8f600c7910000a8f700c7920000_a8f800c7940000a8f900c7960000,
  0xa8fa00c7980000a8fb00c79a0000_a8fc00c79c0000a9a100e282ac00_a9a200c2a00000a9a300c2a10000,
  0xa9a400c2a40000a9a500c2a60000_a9a600c2a90000a9a700c2aa0000_a9a800c2ab0000a9a900c2ad0000,
  0xa9aa00c2ae0000a9ab00c2af0000_a9ac00c2b20000a9ad00c2b30000_a9ae00c2b70000a9af00c2b80000,
  0xa9b000c2b90000a9b100c2ba0000_a9b200c2bb0000a9b300c2bc0000_a9b400c2bd0000a9b500c2be0000,
  0xa9b600c2bf0000a9b700c3800000_a9b800c3810000a9b900c3820000_a9ba00c3830000a9bb00c3840000,
  0xa9bc00c3850000a9bd00c3860000_a9be00c3870000a9bf00c3880000_a9c000c3890000a9c100c38a0000,
  0xa9c200c38b0000a9c300c38c0000_a9c400c38d0000a9c500c38e0000_a9c600c38f0000a9c700c3900000,
  0xa9c800c3910000a9c900c3920000_a9ca00c3930000a9cb00c3940000_a9cc00c3950000a9cd00c3960000,
  0xa9ce00c3980000a9cf00c3990000_a9d000c39a0000a9d100c39b0000_a9d200c39c0000a9d300c39d0000,
  0xa9d400c39e0000a9d500c39f0000_a9d600c3a00000a9d700c3a10000_a9d800c3a20000a9d900c3a30000,
  0xa9da00c3a40000a9db00c3a50000_a9dc00c3a60000a9dd00c3a70000_a9de00c3a80000a9df00c3a90000,
  0xa9e000c3aa0000a9e100c3ab0000_a9e200c3ac0000a9e300c3ad0000_a9e400c3ae0000a9e500c3af0000,
  0xa9e600c3b00000a9e700c3b10000_a9e800c3b20000a9e900c3b30000_a9ea00c3b40000a9eb00c3b50000,
  0xa9ec00c3b60000a9ed00c3b80000_a9ee00c3b90000a9ef00c3ba0000_a9f000c3bb0000a9f100c3bc0000,
  0xa9f200c3bd0000a9f300c3be0000_a9f400c3bf0000a9f500c4800000_a9f600c4aa0000a9f700c5aa0000,
  0xa9f800c4920000a9f900c58c0000_a9fa00c4810000a9fb00c4ab0000_a9fc00c5ab0000a9fd00c4930000,
  0xa9fe00c58d0000aaa100c4840000_aaa200cb980000aaa300c5810000_aaa400c4bd0000aaa500c59a0000,
  0xaaa600c5a00000aaa700c59e0000_aaa800c5a40000aaa900c5b90000_aaaa00c5bd0000aaab00c5bb0000,
  0xaaac00c4850000aaad00cb9b0000_aaae00c5820000aaaf00c4be0000_aab000c59b0000aab100cb870000,
  0xaab200c5a10000aab300c59f0000_aab400c5a50000aab500c5ba0000_aab600cb9d0000aab700c5be0000,
  0xaab800c5bc0000aab900c5940000_aaba00c4820000aabb00c4b90000_aabc00c4860000aabd00c48c0000,
  0xaabe00c4980000aabf00c49a0000_aac000c48e0000aac100c5830000_aac200c5870000aac300c5900000,
  0xaac400c5980000aac500c5ae0000_aac600c5b00000aac700c5a20000_aac800c5950000aac900c4830000,
  0xaaca00c4ba0000aacb00c4870000_aacc00c48d0000aacd00c4990000_aace00c49b0000aacf00c48f0000,
  0xaad000c4910000aad100c5840000_aad200c5880000aad300c5910000_aad400c5990000aad500c5af0000,
  0xaad600c5b10000aad700c5a30000_aad800cb990000aad900c4880000_aada00c49c0000aadb00c4a40000,
  0xaadc00c4b40000aadd00c59c0000_aade00c5ac0000aadf00c4890000_aae000c49d0000aae100c4a50000,
  0xaae200c4b50000aae300c59d0000_aae400c5ad0000aae500c9b10000_aae600ca8b0000aae700c9be0000,
  0xaae800ca830000aae900ca920000_aaea00c9ac0000aaeb00c9ae0000_aaec00c9b90000aaed00ca880000,
  0xaaee00c9960000aaef00c9b30000_aaf000c9bd0000aaf100ca820000_aaf200ca900000aaf300c9bb0000,
  0xaaf400c9ad0000aaf500c99f0000_aaf600c9b20000aaf700ca9d0000_aaf800ca8e0000aaf900c9a10000,
  0xaafa00c58b0000aafb00c9b00000_aafc00ca810000aafd00c4a70000_aafe00ca950000aba100ca940000,
  0xaba200c9a60000aba300ca980000_aba400c7820000aba500c9930000_aba600c9970000aba700ca840000,
  0xaba800c9a00000aba900c6930000_abaa00c5930000abab00c5920000_abac00c9a80000abad00ca890000,
  0xabae00c9980000abaf00c9b50000_abb000c9990000abb100c99c0000_abb200c99e0000abb300c9900000,
  0xabb400c9af0000abb500ca8a0000_abb600c9a40000abb700ca8c0000_abb800c9940000abb900c9910000,
  0xabba00c9920000abbb00ca8d0000_abbc00c9a50000abbd00caa20000_abbe00caa10000abbf00c9950000,
  0xabc000ca910000abc100c9ba0000_abc200c9a70000abc300c99a0000_abc500c7bd0000abc600e1bdb000,
  0xabc700e1bdb100abd000e1bdb200_abd100e1bdb300abd200cda10000_abd300cb880000abd400cb8c0000,
  0xabd500cb900000abd600cb910000_abd700cc860000abd800e280bf00_abd900cc8b0000abda00cc810000,
  0xabdb00cc840000abdc00cc800000_abdd00cc8f0000abde00cc8c0000_abdf00cc820000abe000cba50000,
  0xabe100cba60000abe200cba70000_abe300cba80000abe400cba90000_abe700cca50000abe800ccac0000,
  0xabe900ccb90000abea00cc9c0000_abeb00cc9f0000abec00cca00000_abed00cc880000abee00ccbd0000,
  0xabef00cca90000abf000ccaf0000_abf100cb9e0000abf200cca40000_abf300ccb00000abf400ccbc0000,
  0xabf500ccb40000abf600cc9d0000_abf700cc9e0000abf800cc980000_abf900cc990000abfa00ccaa0000,
  0xabfb00ccba0000abfc00ccbb0000_abfd00cc830000abfe00cc9a0000_aca100e29db600aca200e29db700,
  0xaca300e29db800aca400e29db900_aca500e29dba00aca600e29dbb00_aca700e29dbc00aca800e29dbd00,
  0xaca900e29dbe00acaa00e29dbf00_acab00e293ab00acac00e293ac00_acad00e293ad00acae00e293ae00,
  0xacaf00e293af00acb000e293b000_acb100e293b100acb200e293b200_acb300e293b300acb400e293b400,
  0xacb500e285b000acb600e285b100_acb700e285b200acb800e285b300_acb900e285b400acba00e285b500,
  0xacbb00e285b600acbc00e285b700_acbd00e285b800acbe00e285b900_acbf00e285ba00acc000e285bb00,
  0xacc100e2939000acc200e2939100_acc300e2939200acc400e2939300_acc500e2939400acc600e2939500,
  0xacc700e2939600acc800e2939700_acc900e2939800acca00e2939900_accb00e2939a00accc00e2939b00,
  0xaccd00e2939c00acce00e2939d00_accf00e2939e00acd000e2939f00_acd100e293a000acd200e293a100,
  0xacd300e293a200acd400e293a300_acd500e293a400acd600e293a500_acd700e293a600acd800e293a700,
  0xacd900e293a800acda00e293a900_acdb00e38b9000acdc00e38b9100_acdd00e38b9200acde00e38b9300,
  0xacdf00e38b9400ace000e38b9500_ace100e38b9600ace200e38b9700_ace300e38b9800ace400e38b9900,
  0xace500e38b9a00ace600e38b9b00_ace700e38b9c00ace800e38b9d00_ace900e38b9e00acea00e38b9f00,
  0xaceb00e38ba000acec00e38ba100_aced00e38ba200acee00e38ba300_acef00e38bba00acf000e38ba900,
  0xacf100e38ba500acf200e38bad00_acf300e38bac00acfd00e2819100_acfe00e2818200ada100e291a000,
  0xada200e291a100ada300e291a200_ada400e291a300ada500e291a400_ada600e291a500ada700e291a600,
  0xada800e291a700ada900e291a800_adaa00e291a900adab00e291aa00_adac00e291ab00adad00e291ac00,
  0xadae00e291ad00adaf00e291ae00_adb000e291af00adb100e291b000_adb200e291b100adb300e291b200,
  0xadb400e291b300adb500e285a000_adb600e285a100adb700e285a200_adb800e285a300adb900e285a400,
  0xadba00e285a500adbb00e285a600_adbc00e285a700adbd00e285a800_adbe00e285a900adbf00e285aa00,
  0xadc000e38d8900adc100e38c9400_adc200e38ca200adc300e38d8d00_adc400e38c9800adc500e38ca700,
  0xadc600e38c8300adc700e38cb600_adc800e38d9100adc900e38d9700_adca00e38c8d00adcb00e38ca600,
  0xadcc00e38ca300adcd00e38cab00_adce00e38d8a00adcf00e38cbb00_add000e38e9c00add100e38e9d00,
  0xadd200e38e9e00add300e38e8e00_add400e38e8f00add500e38f8400_add600e38ea100add700e285ab00,
  0xaddf00e38dbb00ade000e3809d00_ade100e3809f00ade200e2849600_ade300e38f8d00ade400e284a100,
  0xade500e38aa400ade600e38aa500_ade700e38aa600ade800e38aa700_ade900e38aa800adea00e388b100,
  0xadeb00e388b200adec00e388b900_aded00e38dbe00adee00e38dbd00_adef00e38dbc00adf300e288ae00,
  0xadf800e2889f00adf900e28abf00_adfd00e29d9600adfe00e2989e00_aea100e4bfb100aea200f0a0808b,
  0xaea300e3908200aea400e4b8a800_aea500e4b8af00aea600e4b8b000_aea700e4ba8d00aea800e4bba100,
  0xaea900e4bbbd00aeaa00e4bbbf00_aeab00e4bc8300aeac00e4bc8b00_aead00e4bda000aeae00e4bd8800,
  0xaeaf00e4bd8900aeb000e4bd9600_aeb100e4bd9f00aeb200e4bdaa00_aeb300e4bdac00aeb400e4bdbe00,
  0xaeb500e4be8a00aeb600e4be9400_aeb700e4be9700aeb800efa8b000_aeb900e4bf8900aeba00e4bfa000,
  0xaebb00e5808100aebc00e5808200_aebd00e5808e00aebe00e5809800_aebf00e580a700aec000e580ae00,
  0xaec100e5818000aec200e580bb00_aec300e5818100aec400e5829400_aec500e5838c00aec600e583b200,
  0xaec700e5839000aec800e583a600_aec900efa8b100aeca00e5848600_aecb00e5848300aecc00e5848b00,
  0xaecd00e5849e00aece00e584b500_aecf00e5858a00aed000efa8b200_aed100e5859500aed200e5859700,
  0xaed300e392b500aed400e5869d00_aed500e5878300aed600e5878a00_aed700e5879e00aed800e587a200,
  0xaed900e587ae00aeda00e5888100_aedb00e3939b00aedc00e5889300_aedd00e5889500aede00e5898900,
  0xaedf00e5899700aee000e589a100_aee100e58a9300aee200e58b8800_aee300efa8b300aee400e58b8c00,
  0xaee500e58b9000aee600e58b9600_aee700e58b9b00aee800efa8b400_aee900e58bb000aeea00e58bbb00,
  0xaeeb00e58c8000aeec00e58c8700_aeed00e58c9c00aeee00efa8b500_aeef00e58da100aef000e58da300,
  0xaef100e58dbd00aef200e58e9300_aef300e58e9d00aef400e58eb200_aef500e5909200aef600e590a700,
  0xaef700e5918d00aef800e5929c00_aef900e591ab00aefa00e591b400_aefb00e591bf00aefc00e5928800,
  0xaefd00e5929600aefe00e592a100_afa100e592a900afa200e5938600_afa300e593bf00afa400e5948e00,
  0xafa500e594ab00afa600e594b500_afa700e5959000afa800e5959e00_afa900e5968100afaa00e5968600,
  0xafab00e5968e00afac00efa8b600_afad00e596ad00afae00e5978e00_afaf00efa8b700afb000e5988800,
  0xafb100e5988e00afb200e598bb00_afb300e5998900afb400e599b600_afb500e599a600afb600efa8b800,
  0xafb700e599af00afb800e599b100_afb900e599b200afba00e59a9900_afbb00e59a9e00afbc00e59aa900,
  0xafbd00e59aac00afbe00e59ab300_afbf00e59b8900afc000e59b8a00_afc100e59c8a00afc200f0a188bd,
  0xafc300e59ca100afc400e59caf00_afc500e59cb300afc600e59cb400_afc700e59db000afc800e59db700,
  0xafc900e59dbc00afca00e59e9c00_afcb00efa88f00afcc00f0a18c9b_afcd00e59eb800afce00e59f8700,
  0xafcf00e59f8800afd000e59f8f00_afd100e59fa400afd200e59fad00_afd300e59fb500afd400e59fb600,
  0xafd500e59fbf00afd600e5a08900_afd700efa89000afd800e5a1a100_afd900e5a1a400afda00efa8b900,
  0xafdb00e5a1bc00afdc00e5a28900_afdd00e5a29e00afde00efa8ba00_afdf00e5a2a900afe000f0a191ae,
  0xafe100e5a39200afe200e5a38e00_afe300e5a39400afe400e5a39a00_afe500e5a3a000afe600e5a3a900,
  0xafe700e5a48c00afe800e8998100_afe900e5a59d00afea00e5a5ad00_afeb00e5a68b00afec00e5a69200,
  0xafed00e5a6a400afee00e5a78300_afef00e5a79200aff000e5a79d00_aff100e5a89300aff200e5a8a300,
  0xaff300e5a9a700aff400e5a9ad00_aff500e5a9b700aff600e5a9be00_aff700e5aa8400aff800e5aa9e00,
  0xaff900e5aaa700affa00e5ab8400_affb00f0a1a2bdaffc00e5ac9900_affd00e5aca500affe00e5899d00,
  0xb0a100e4ba9c00b0a200e5949600_b0a300e5a88300b0a400e998bf00_b0a500e5938000b0a600e6849b00,
  0xb0a700e68ca800b0a800e5a7b600_b0a900e980a200b0aa00e891b500_b0ab00e88c9c00b0ac00e7a99000,
  0xb0ad00e682aa00b0ae00e68fa100_b0af00e6b8a500b0b000e697ad00_b0b100e891a600b0b200e88aa600,
  0xb0b300e9afb500b0b400e6a29300_b0b500e59ca700b0b600e696a100_b0b700e689b100b0b800e5ae9b00,
  0xb0b900e5a79000b0ba00e899bb00_b0bb00e9a3b400b0bc00e7b5a200_b0bd00e7b6be00b0be00e9ae8e00,
  0xb0bf00e6889600b0c000e7b29f00_b0c100e8a2b700b0c200e5ae8900_b0c300e5bab500b0c400e68c8900,
  0xb0c500e69a9700b0c600e6a18800_b0c700e9978700b0c800e99e8d00_b0c900e69d8f00b0ca00e4bba500,
  0xb0cb00e4bc8a00b0cc00e4bd8d00_b0cd00e4be9d00b0ce00e5818900_b0cf00e59bb200b0d000e5a4b700,
  0xb0d100e5a79400b0d200e5a88100_b0d300e5b08900b0d400e6839f00_b0d500e6848f00b0d600e685b000,
  0xb0d700e6989300b0d800e6a48500_b0d900e782ba00b0da00e7958f00_b0db00e795b000b0dc00e7a7bb00,
  0xb0dd00e7b6ad00b0de00e7b7af00_b0df00e8838300b0e000e8908e00_b0e100e8a1a300b0e200e8ac8200,
  0xb0e300e9819500b0e400e981ba00_b0e500e58cbb00b0e600e4ba9500_b0e700e4baa500b0e800e59f9f00,
  0xb0e900e882b200b0ea00e9838100_b0eb00e7a3af00b0ec00e4b88000_b0ed00e5a3b100b0ee00e6baa200,
  0xb0ef00e980b800b0f000e7a8b200_b0f100e88ca800b0f200e88a8b00_b0f300e9b0af00b0f400e5858100,
  0xb0f500e58db000b0f600e592bd00_b0f700e593a100b0f800e59ba000_b0f900e5a7bb00b0fa00e5bc9500,
  0xb0fb00e9a3b200b0fc00e6b7ab00_b0fd00e883a400b0fe00e894ad00_b1a100e999a200b1a200e999b000,
  0xb1a300e99aa000b1a400e99fbb00_b1a500e5908b00b1a600e58fb300_b1a700e5ae8700b1a800e7838f00,
  0xb1a900e7bebd00b1aa00e8bf8200_b1ab00e99ba800b1ac00e58daf00_b1ad00e9b59c00b1ae00e7aaba00,
  0xb1af00e4b89100b1b000e7a29300_b1b100e887bc00b1b200e6b8a600_b1b300e5989800b1b400e5948400,
  0xb1b500e6ac9d00b1b600e8949a00_b1b700e9b0bb00b1b800e5a7a500_b1b900e58ea900b1ba00e6b5a600,
  0xb1bb00e7939c00b1bc00e9968f00_b1bd00e5998200b1be00e4ba9100_b1bf00e9818b00b1c000e99bb200,
  0xb1c100e88d8f00b1c200e9a48c00_b1c300e58fa100b1c400e596b600_b1c500e5acb000b1c600e5bdb100,
  0xb1c700e698a000b1c800e69bb300_b1c900e6a08400b1ca00e6b0b800_b1cb00e6b3b300b1cc00e6b4a900,
  0xb1cd00e7919b00b1ce00e79b8800_b1cf00e7a98e00b1d000e9a0b400_b1d100e88bb100b1d200e8a19b00,
  0xb1d300e8a9a000b1d400e98bad00_b1d500e6b6b200b1d600e796ab00_b1d700e79b8a00b1d800e9a78500,
  0xb1d900e682a600b1da00e8ac8100_b1db00e8b68a00b1dc00e996b200_b1dd00e6a68e00b1de00e58ead00,
  0xb1df00e5868600b1e000e59c9200_b1e100e5a0b000b1e200e5a58400_b1e300e5aeb400b1e400e5bbb600,
  0xb1e500e680a800b1e600e68ea900_b1e700e68fb400b1e800e6b2bf00_b1e900e6bc9400b1ea00e7828e00,
  0xb1eb00e7849400b1ec00e7859900_b1ed00e7879500b1ee00e78cbf00_b1ef00e7b88100b1f000e889b600,
  0xb1f100e88b9100b1f200e8969700_b1f300e981a000b1f400e9899b00_b1f500e9b49b00b1f600e5a1a900,
  0xb1f700e696bc00b1f800e6b19a00_b1f900e794a500b1fa00e587b900_b1fb00e5a4ae00b1fc00e5a5a500,
  0xb1fd00e5be8000b1fe00e5bf9c00_b2a100e68abc00b2a200e697ba00_b2a300e6a8aa00b2a400e6aca700,
  0xb2a500e6aeb400b2a600e78e8b00_b2a700e7bf8100b2a800e8a59600_b2a900e9b4ac00b2aa00e9b48e00,
  0xb2ab00e9bb8400b2ac00e5b2a100_b2ad00e6b29600b2ae00e88dbb00_b2af00e5848400b2b000e5b18b00,
  0xb2b100e686b600b2b200e8878600_b2b300e6a1b600b2b400e789a100_b2b500e4b99900b2b600e4bfba00,
  0xb2b700e58db800b2b800e681a900_b2b900e6b8a900b2ba00e7a98f00_b2bb00e99fb300b2bc00e4b88b00,
  0xb2bd00e58c9600b2be00e4bbae00_b2bf00e4bd9500b2c000e4bcbd00_b2c100e4bea100b2c200e4bdb300,
  0xb2c300e58aa000b2c400e58faf00_b2c500e5988900b2c600e5a48f00_b2c700e5ab8100b2c800e5aeb600,
  0xb2c900e5afa100b2ca00e7a79100_b2cb00e69a8700b2cc00e69e9c00_b2cd00e69eb600b2ce00e6ad8c00,
  0xb2cf00e6b2b300b2d000e781ab00_b2d100e78f8200b2d200e7a68d00_b2d300e7a6be00b2d400e7a8bc00,
  0xb2d500e7ae8700b2d600e88ab100_b2d700e88b9b00b2d800e88c8400_b2d900e88db700b2da00e88faf00,
  0xb2db00e88f9300b2dc00e89da600_b2dd00e8aab200b2de00e598a900_b2df00e8b2a800b2e000e8bfa600,
  0xb2e100e9818e00b2e200e99c9e00_b2e300e89a8a00b2e400e4bf8400_b2e500e5b3a800b2e600e6889100,
  0xb2e700e7899900b2e800e794bb00_b2e900e887a500b2ea00e88abd00_b2eb00e89bbe00b2ec00e8b38000,
  0xb2ed00e99b8500b2ee00e9a49300_b2ef00e9a79500b2f000e4bb8b00_b2f100e4bc9a00b2f200e8a7a300,
  0xb2f300e59b9e00b2f400e5a18a00_b2f500e5a38a00b2f600e5bbbb00_b2f700e5bfab00b2f800e680aa00,
  0xb2f900e6829400b2fa00e681a200_b2fb00e6879000b2fc00e6889200_b2fd00e68b9000b2fe00e694b900,
  0xb3a100e9ad8100b3a200e699a600_b3a300e6a2b000b3a400e6b5b700_b3a500e781b000b3a600e7958c00,
  0xb3a700e79a8600b3a800e7b5b500_b3a900e88aa500b3aa00e89fb900_b3ab00e9968b00b3ac00e99a8e00,
  0xb3ad00e8b29d00b3ae00e587b100_b3af00e58abe00b3b000e5a49600_b3b100e592b300b3b200e5aeb300,
  0xb3b300e5b49600b3b400e685a800_b3b500e6a68200b3b600e6b6af00_b3b700e7a28d00b3b800e8938b00,
  0xb3b900e8a19700b3ba00e8a9b200_b3bb00e98ea700b3bc00e9aab800_b3bd00e6b5ac00b3be00e9a6a800,
  0xb3bf00e89b9900b3c000e59ea300_b3c100e69fbf00b3c200e89b8e00_b3c300e9888e00b3c400e58a8300,
  0xb3c500e59a8700b3c600e5908400_b3c700e5bb9300b3c800e68ba100_b3c900e692b900b3ca00e6a0bc00,
  0xb3cb00e6a0b800b3cc00e6aebb00_b3cd00e78db200b3ce00e7a2ba00_b3cf00e7a9ab00b3d000e8a69a00,
  0xb3d100e8a79200b3d200e8b5ab00_b3d300e8bc8300b3d400e983ad00_b3d500e996a300b3d600e99a9400,
  0xb3d700e99da900b3d800e5ada600_b3d900e5b2b300b3da00e6a5bd00_b3db00e9a18d00b3dc00e9a18e00,
  0xb3dd00e68e9b00b3de00e7aca000_b3df00e6a8ab00b3e000e6a9bf00_b3e100e6a2b600b3e200e9b08d00,
  0xb3e300e6bd9f00b3e400e589b200_b3e500e5969d00b3e600e681b000_b3e700e68bac00b3e800e6b4bb00,
  0xb3e900e6b88700b3ea00e6bb9100_b3eb00e8919b00b3ec00e8a49000_b3ed00e8bd8400b3ee00e4b89400,
  0xb3ef00e9b0b900b3f000e58fb600_b3f100e6a49b00b3f200e6a8ba00_b3f300e99e8400b3f400e6a0aa00,
  0xb3f500e5859c00b3f600e7ab8300_b3f700e892b200b3f800e9879c00_b3f900e98e8c00b3fa00e5999b00,
  0xb3fb00e9b4a800b3fc00e6a0a200_b3fd00e88c8500b3fe00e890b100_b4a100e7b2a500b4a200e5888800,
  0xb4a300e88b8500b4a400e793a600_b4a500e4b9be00b4a600e4be8300_b4a700e586a000b4a800e5af9200,
  0xb4a900e5888a00b4aa00e58b9800_b4ab00e58ba700b4ac00e5b7bb00_b4ad00e5969a00b4ae00e5a0aa00,
  0xb4af00e5a7a600b4b000e5ae8c00_b4b100e5ae9800b4b200e5af9b00_b4b300e5b9b200b4b400e5b9b900,
  0xb4b500e682a300b4b600e6849f00_b4b700e685a300b4b800e686be00_b4b900e68f9b00b4ba00e695a200,
  0xb4bb00e69f9100b4bc00e6a19300_b4bd00e6a3ba00b4be00e6acbe00_b4bf00e6ad9300b4c000e6b19700,
  0xb4c100e6bca200b4c200e6be9700_b4c300e6bd8500b4c400e792b000_b4c500e7949800b4c600e79ba300,
  0xb4c700e79c8b00b4c800e7abbf00_b4c900e7aea100b4ca00e7b0a100_b4cb00e7b7a900b4cc00e7bcb600,
  0xb4cd00e7bfb000b4ce00e8829d00_b4cf00e889a600b4d000e88e9e00_b4d100e8a6b300b4d200e8ab8c00,
  0xb4d300e8b2ab00b4d400e9828400_b4d500e9919100b4d600e9969300_b4d700e9969100b4d800e996a200,
  0xb4d900e999a500b4da00e99f9300_b4db00e9a4a800b4dc00e8889800_b4dd00e4b8b800b4de00e590ab00,
  0xb4df00e5b2b800b4e000e5b78c00_b4e100e78ea900b4e200e7998c00_b4e300e79cbc00b4e400e5b2a900,
  0xb4e500e7bfab00b4e600e8b48b00_b4e700e99b8100b4e800e9a09100_b4e900e9a19400b4ea00e9a19800,
  0xb4eb00e4bc8100b4ec00e4bc8e00_b4ed00e58db100b4ee00e5969c00_b4ef00e599a800b4f000e59fba00,
  0xb4f100e5a58700b4f200e5ac8900_b4f300e5af8400b4f400e5b29000_b4f500e5b88c00b4f600e5b9be00,
  0xb4f700e5bf8c00b4f800e68fae00_b4f900e69cba00b4fa00e6979700_b4fb00e697a200b4fc00e69c9f00,
  0xb4fd00e6a38b00b4fe00e6a38400_b5a100e6a99f00b5a200e5b8b000_b5a300e6af8500b5a400e6b09700,
  0xb5a500e6b1bd00b5a600e795bf00_b5a700e7a58800b5a800e5ada300_b5a900e7a88000b5aa00e7b48000,
  0xb5ab00e5bebd00b5ac00e8a68f00_b5ad00e8a89800b5ae00e8b2b400_b5af00e8b5b700b5b000e8bb8c00,
  0xb5b100e8bc9d00b5b200e9a3a200_b5b300e9a88e00b5b400e9acbc00_b5b500e4ba8000b5b600e581bd00,
  0xb5b700e5848000b5b800e5a69300_b5b900e5ae9c00b5ba00e688af00_b5bb00e68a8000b5bc00e693ac00,
  0xb5bd00e6acba00b5be00e78aa000_b5bf00e7969100b5c000e7a58700_b5c100e7bea900b5c200e89fbb00,
  0xb5c300e8aabc00b5c400e8adb000_b5c500e68eac00b5c600e88f8a00_b5c700e99ea000b5c800e5908900,
  0xb5c900e5908300b5ca00e596ab00_b5cb00e6a19400b5cc00e6a99800_b5cd00e8a9b000b5ce00e7a0a700,
  0xb5cf00e69db500b5d000e9bb8d00_b5d100e58db400b5d200e5aea200_b5d300e8849a00b5d400e8999000,
  0xb5d500e9808600b5d600e4b89800_b5d700e4b98500b5d800e4bb8700_b5d900e4bc9100b5da00e58f8a00,
  0xb5db00e590b800b5dc00e5aeae00_b5dd00e5bc9300b5de00e680a500_b5df00e6959100b5e000e69cbd00,
  0xb5e100e6b18200b5e200e6b1b200_b5e300e6b3a300b5e400e781b800_b5e500e7908300b5e600e7a9b600,
  0xb5e700e7aaae00b5e800e7ac8800_b5e900e7b49a00b5ea00e7b3be00_b5eb00e7b5a600b5ec00e697a700,
  0xb5ed00e7899b00b5ee00e58ebb00_b5ef00e5b18500b5f000e5b7a800_b5f100e68b9200b5f200e68ba000,
  0xb5f300e68c9900b5f400e6b8a000_b5f500e8999a00b5f600e8a8b100_b5f700e8b79d00b5f800e98bb800,
  0xb5f900e6bc8100b5fa00e7a6a600_b5fb00e9ad9a00b5fc00e4baa800_b5fd00e4baab00b5fe00e4baac00,
  0xb6a100e4be9b00b6a200e4bea000_b6a300e5839100b6a400e5858700_b6a500e7abb600b6a600e585b100,
  0xb6a700e587b600b6a800e58d9400_b6a900e58ca100b6aa00e58dbf00_b6ab00e58fab00b6ac00e596ac00,
  0xb6ad00e5a28300b6ae00e5b3a100_b6af00e5bcb700b6b000e5bd8a00_b6b100e680af00b6b200e6819000,
  0xb6b300e681ad00b6b400e68c9f00_b6b500e6959900b6b600e6a98b00_b6b700e6b38100b6b800e78b8200,
  0xb6b900e78bad00b6ba00e79faf00_b6bb00e883b800b6bc00e8848500_b6bd00e8888800b6be00e8958e00,
  0xb6bf00e983b700b6c000e98fa100_b6c100e99fbf00b6c200e9a59700_b6c300e9a99a00b6c400e4bbb000,
  0xb6c500e5879d00b6c600e5b0ad00_b6c700e69a8100b6c800e6a5ad00_b6c900e5b18000b6ca00e69bb200,
  0xb6cb00e6a5b500b6cc00e78e8900_b6cd00e6a19000b6ce00e7b28100_b6cf00e5838500b6d000e58ba400,
  0xb6d100e59d8700b6d200e5b7be00_b6d300e98ca600b6d400e696a400_b6d500e6aca300b6d600e6acbd00,
  0xb6d700e790b400b6d800e7a68100_b6d900e7a6bd00b6da00e7ad8b00_b6db00e7b78a00b6dc00e88ab900,
  0xb6dd00e88f8c00b6de00e8a1bf00_b6df00e8a59f00b6e000e8acb900_b6e100e8bf9100b6e200e9879100,
  0xb6e300e5909f00b6e400e98a8000_b6e500e4b99d00b6e600e580b600_b6e700e58fa500b6e800e58cba00,
  0xb6e900e78b9700b6ea00e78e9600_b6eb00e79fa900b6ec00e88ba600_b6ed00e8baaf00b6ee00e9a78600,
  0xb6ef00e9a78800b6f000e9a79200_b6f100e585b700b6f200e6849a00_b6f300e8999e00b6f400e596b000,
  0xb6f500e7a9ba00b6f600e581b600_b6f700e5af9300b6f800e9818700_b6f900e99a8500b6fa00e4b8b200,
  0xb6fb00e6ab9b00b6fc00e987a700_b6fd00e5b19100b6fe00e5b18800_b7a100e68e9800b7a200e7aa9f00,
  0xb7a300e6b29300b7a400e99db400_b7a500e8bda100b7a600e7aaaa00_b7a700e7868a00b7a800e99a8800,
  0xb7a900e7b28200b7aa00e6a09700_b7ab00e7b9b000b7ac00e6a19100_b7ad00e98dac00b7ae00e58bb200,
  0xb7af00e5909b00b7b000e896ab00_b7b100e8a89300b7b200e7bea400_b7b300e8bb8d00b7b400e983a100,
  0xb7b500e58da600b7b600e8a28800_b7b700e7a58100b7b800e4bf8200_b7b900e582be00b7ba00e5889100,
  0xb7bb00e5858400b7bc00e5959300_b7bd00e59cad00b7be00e78faa00_b7bf00e59e8b00b7c000e5a59100,
  0xb7c100e5bda200b7c200e5be8400_b7c300e681b500b7c400e685b600_b7c500e685a700b7c600e686a900,
  0xb7c700e68eb200b7c800e690ba00_b7c900e695ac00b7ca00e699af00_b7cb00e6a18200b7cc00e6b89300,
  0xb7cd00e795a600b7ce00e7a8bd00_b7cf00e7b3bb00b7d000e7b58c00_b7d100e7b69900b7d200e7b98b00,
  0xb7d300e7bdab00b7d400e88c8e00_b7d500e88d8a00b7d600e89b8d00_b7d700e8a88800b7d800e8a9a300,
  0xb7d900e8ada600b7da00e8bbbd00_b7db00e9a09a00b7dc00e9b68f00_b7dd00e88ab800b7de00e8bf8e00,
  0xb7df00e9afa800b7e000e58a8700_b7e100e6889f00b7e200e6928300_b7e300e6bf8000b7e400e99a9900,
  0xb7e500e6a18100b7e600e5829100_b7e700e6aca000b7e800e6b1ba00_b7e900e6bd9400b7ea00e7a9b400,
  0xb7eb00e7b59000b7ec00e8a18000_b7ed00e8a8a300b7ee00e69c8800_b7ef00e4bbb600b7f000e580b900,
  0xb7f100e580a600b7f200e581a500_b7f300e585bc00b7f400e588b800_b7f500e589a300b7f600e596a700,
  0xb7f700e59c8f00b7f800e5a08500_b7f900e5ab8c00b7fa00e5bbba00_b7fb00e686b200b7fc00e687b800,
  0xb7fd00e68bb300b7fe00e68db200_b8a100e6a49c00b8a200e6a8a900_b8a300e789bd00b8a400e78aac00,
  0xb8a500e78cae00b8a600e7a09400_b8a700e7a1af00b8a800e7b5b900_b8a900e79c8c00b8aa00e882a900,
  0xb8ab00e8a68b00b8ac00e8ac9900_b8ad00e8b3a200b8ae00e8bb9200_b8af00e981a300b8b000e98db500,
  0xb8b100e999ba00b8b200e9a19500_b8b300e9a89300b8b400e9b9b800_b8b500e5858300b8b600e58e9f00,
  0xb8b700e58eb300b8b800e5b9bb00_b8b900e5bca600b8ba00e6b89b00_b8bb00e6ba9000b8bc00e78e8400,
  0xb8bd00e78fbe00b8be00e7b58300_b8bf00e888b700b8c000e8a88000_b8c100e8abba00b8c200e9999000,
  0xb8c300e4b98e00b8c400e5808b00_b8c500e58fa400b8c600e591bc00_b8c700e59bba00b8c800e5a79100,
  0xb8c900e5ada400b8ca00e5b7b100_b8cb00e5baab00b8cc00e5bca700_b8cd00e688b800b8ce00e6958500,
  0xb8cf00e69eaf00b8d000e6b99600_b8d100e78b9000b8d200e7b38a00_b8d300e8a2b400b8d400e882a100,
  0xb8d500e883a100b8d600e88fb000_b8d700e8998e00b8d800e8aa8700_b8d900e8b7a800b8da00e988b700,
  0xb8db00e99b8700b8dc00e9a1a700_b8dd00e9bc9300b8de00e4ba9400_b8df00e4ba9200b8e000e4bc8d00,
  0xb8e100e58d8800b8e200e5918900_b8e300e590be00b8e400e5a8af00_b8e500e5be8c00b8e600e5bea100,
  0xb8e700e6829f00b8e800e6a2a700_b8e900e6aa8e00b8ea00e7919a00_b8eb00e7a28100b8ec00e8aa9e00,
  0xb8ed00e8aaa400b8ee00e8adb700_b8ef00e9869000b8f000e4b99e00_b8f100e9af8900b8f200e4baa400,
  0xb8f300e4bdbc00b8f400e4beaf00_b8f500e5809900b8f600e5809600_b8f700e5858900b8f800e585ac00,
  0xb8f900e58a9f00b8fa00e58ab900_b8fb00e58bbe00b8fc00e58e9a00_b8fd00e58fa300b8fe00e5909100,
  0xb9a100e5908e00b9a200e5968900_b9a300e59d9100b9a400e59ea200_b9a500e5a5bd00b9a600e5ad9400,
  0xb9a700e5ad9d00b9a800e5ae8f00_b9a900e5b7a500b9aa00e5b7a700_b9ab00e5b7b700b9ac00e5b9b800,
  0xb9ad00e5ba8300b9ae00e5ba9a00_b9af00e5bab700b9b000e5bc9800_b9b100e6819200b9b200e6858c00,
  0xb9b300e68a9700b9b400e68b9800_b9b500e68ea700b9b600e694bb00_b9b700e6988200b9b800e6998300,
  0xb9b900e69bb400b9ba00e69dad00_b9bb00e6a0a100b9bc00e6a29700_b9bd00e6a78b00b9be00e6b19f00,
  0xb9bf00e6b4aa00b9c000e6b5a900_b9c100e6b8af00b9c200e6ba9d00_b9c300e794b200b9c400e79a8700,
  0xb9c500e7a1ac00b9c600e7a8bf00_b9c700e7b3a000b9c800e7b48500_b9c900e7b49800b9ca00e7b59e00,
  0xb9cb00e7b6b100b9cc00e8809500_b9cd00e8808300b9ce00e882af00_b9cf00e882b100b9d000e8859400,
  0xb9d100e8868f00b9d200e888aa00_b9d300e88d9200b9d400e8a18c00_b9d500e8a1a100b9d600e8ac9b00,
  0xb9d700e8b2a200b9d800e8b3bc00_b9d900e9838a00b9da00e985b500_b9db00e989b100b9dc00e7a0bf00,
  0xb9dd00e98bbc00b9de00e996a400_b9df00e9998d00b9e000e9a08500_b9e100e9a69900b9e200e9ab9800,
  0xb9e300e9b4bb00b9e400e5899b00_b9e500e58aab00b9e600e58fb700_b9e700e5908800b9e800e5a39500,
  0xb9e900e68bb700b9ea00e6bfa000_b9eb00e8b1aa00b9ec00e8bd9f00_b9ed00e9bab900b9ee00e5858b00,
  0xb9ef00e588bb00b9f000e5918a00_b9f100e59bbd00b9f200e7a98000_b9f300e985b700b9f400e9b5a000,
  0xb9f500e9bb9200b9f600e78d8400_b9f700e6bc8900b9f800e885b000_b9f900e7949100b9fa00e5bfbd00,
  0xb9fb00e6839a00b9fc00e9aaa800_b9fd00e78b9b00b9fe00e8bebc00_baa100e6ada400baa200e9a08300,
  0xbaa300e4bb8a00baa400e59bb000_baa500e59da400baa600e5a2be00_baa700e5a99a00baa800e681a800,
  0xbaa900e6878700baaa00e6988f00_baab00e6988600baac00e6a0b900_baad00e6a2b100baae00e6b7b700,
  0xbaaf00e7979500bab000e7b4ba00_bab100e889ae00bab200e9ad8200_bab300e4ba9b00bab400e4bd9000,
  0xbab500e58f8900bab600e5948600_bab700e5b5af00bab800e5b7a600_bab900e5b7ae00baba00e69fbb00,
  0xbabb00e6b29900babc00e791b300_babd00e7a08200babe00e8a99000_babf00e98e9600bac000e8a39f00,
  0xbac100e59d9000bac200e5baa700_bac300e68cab00bac400e582b500_bac500e582ac00bac600e5868d00,
  0xbac700e69c8000bac800e5938900_bac900e5a19e00baca00e5a6bb00_bacb00e5aeb000bacc00e5bda900,
  0xbacd00e6898d00bace00e68ea100_bacf00e6a0bd00bad000e6adb300_bad100e6b88800bad200e781bd00,
  0xbad300e9878700bad400e78a8000_bad500e7a09500bad600e7a0a600_bad700e7a5ad00bad800e6968e00,
  0xbad900e7b4b000bada00e88f9c00_badb00e8a38100badc00e8bc8900_badd00e99a9b00bade00e589a400,
  0xbadf00e59ca800bae000e69d9000_bae100e7bdaa00bae200e8b2a100_bae300e586b400bae400e59d8200,
  0xbae500e998aa00bae600e5a0ba00_bae700e6a68a00bae800e882b400_bae900e592b200baea00e5b48e00,
  0xbaeb00e59fbc00baec00e7a29500_baed00e9b7ba00baee00e4bd9c00_baef00e5898a00baf000e5928b00,
  0xbaf100e690be00baf200e698a800_baf300e69c9400baf400e69fb500_baf500e7aa8400baf600e7ad9600,
  0xbaf700e7b4a200baf800e98caf00_baf900e6a19c00bafa00e9aead00_bafb00e7acb900bafc00e58c9900,
  0xbafd00e5868a00bafe00e588b700_bba100e5af9f00bba200e68bb600_bba300e692ae00bba400e693a600,
  0xbba500e69cad00bba600e6aeba00_bba700e896a900bba800e99b9100_bba900e79a9000bbaa00e9af9600,
  0xbbab00e68d8c00bbac00e98c8600_bbad00e9aeab00bbae00e79abf00_bbaf00e6999200bbb000e4b88900,
  0xbbb100e5829800bbb200e58f8200_bbb300e5b1b100bbb400e683a800_bbb500e6929200bbb600e695a300,
  0xbbb700e6a19f00bbb800e787a600_bbb900e78f8a00bbba00e794a300_bbbb00e7ae9700bbbc00e7ba8200,
  0xbbbd00e89a9500bbbe00e8ae8300_bbbf00e8b39b00bbc000e985b800_bbc100e9a49000bbc200e696ac00,
  0xbbc300e69aab00bbc400e6ae8b00_bbc500e4bb9500bbc600e4bb9400_bbc700e4bcba00bbc800e4bdbf00,
  0xbbc900e588ba00bbca00e58fb800_bbcb00e58fb200bbcc00e597a300_bbcd00e59b9b00bbce00e5a3ab00,
  0xbbcf00e5a78b00bbd000e5a78900_bbd100e5a7bf00bbd200e5ad9000_bbd300e5b18d00bbd400e5b88200,
  0xbbd500e5b8ab00bbd600e5bf9700_bbd700e6809d00bbd800e68c8700_bbd900e694af00bbda00e5ad9c00,
  0xbbdb00e696af00bbdc00e696bd00_bbdd00e697a800bbde00e69e9d00_bbdf00e6ada200bbe000e6adbb00,
  0xbbe100e6b08f00bbe200e78d8500_bbe300e7a58900bbe400e7a78100_bbe500e7b3b800bbe600e7b49900,
  0xbbe700e7b4ab00bbe800e882a200_bbe900e8848200bbea00e887b300_bbeb00e8a69600bbec00e8a99e00,
  0xbbed00e8a9a900bbee00e8a9a600_bbef00e8aa8c00bbf000e8abae00_bbf100e8b38700bbf200e8b39c00,
  0xbbf300e99b8c00bbf400e9a3bc00_bbf500e6adaf00bbf600e4ba8b00_bbf700e4bcbc00bbf800e4be8d00,
  0xbbf900e5859000bbfa00e5ad9700_bbfb00e5afba00bbfc00e6858800_bbfd00e68c8100bbfe00e6998200,
  0xbca100e6aca100bca200e6bb8b00_bca300e6b2bb00bca400e788be00_bca500e792bd00bca600e7979400,
  0xbca700e7a38100bca800e7a4ba00_bca900e8808c00bcaa00e880b300_bcab00e887aa00bcac00e8929400,
  0xbcad00e8be9e00bcae00e6b19000_bcaf00e9b9bf00bcb000e5bc8f00_bcb100e8ad9800bcb200e9b4ab00,
  0xbcb300e7abba00bcb400e8bbb800_bcb500e5ae8d00bcb600e99bab00_bcb700e4b88300bcb800e58fb100,
  0xbcb900e59fb700bcba00e5a4b100_bcbb00e5ab8900bcbc00e5aea400_bcbd00e6828900bcbe00e6b9bf00,
  0xbcbf00e6bc8600bcc000e796be00_bcc100e8b3aa00bcc200e5ae9f00_bcc300e8948000bcc400e7afa000,
  0xbcc500e581b200bcc600e69fb400_bcc700e88a9d00bcc800e5b1a100_bcc900e8958a00bcca00e7b89e00,
  0xbccb00e8888e00bccc00e5869900_bccd00e5b08400bcce00e68da800_bccf00e8b5a600bcd000e6969c00,
  0xbcd100e785ae00bcd200e7a4be00_bcd300e7b49700bcd400e8808500_bcd500e8ac9d00bcd600e8bb8a00,
  0xbcd700e981ae00bcd800e89b8700_bcd900e982aa00bcda00e5809f00_bcdb00e58bba00bcdc00e5b0ba00,
  0xbcdd00e69d9300bcde00e781bc00_bcdf00e788b500bce000e9858c00_bce100e9878800bce200e98cab00,
  0xbce300e88ba500bce400e5af8200_bce500e5bcb100bce600e683b900_bce700e4b8bb00bce800e58f9600,
  0xbce900e5ae8800bcea00e6898b00_bceb00e69cb100bcec00e6ae8a00_bced00e78ba900bcee00e78fa000,
  0xbcef00e7a8ae00bcf000e885ab00_bcf100e8b6a300bcf200e9859200_bcf300e9a69600bcf400e5849200,
  0xbcf500e58f9700bcf600e591aa00_bcf700e5afbf00bcf800e68e8800_bcf900e6a8b900bcfa00e7b6ac00,
  0xbcfb00e99c8000bcfc00e59b9a00_bcfd00e58f8e00bcfe00e591a800_bda100e5ae9700bda200e5b0b100,
  0xbda300e5b79e00bda400e4bfae00_bda500e6848100bda600e68bbe00_bda700e6b4b200bda800e7a78000,
  0xbda900e7a78b00bdaa00e7b58200_bdab00e7b98d00bdac00e7bf9200_bdad00e887ad00bdae00e8889f00,
  0xbdaf00e8929000bdb000e8a18600_bdb100e8a5b200bdb200e8ae9000_bdb300e8b9b400bdb400e8bcaf00,
  0xbdb500e980b100bdb600e9858b00_bdb700e985ac00bdb800e99b8600_bdb900e9869c00bdba00e4bb8000,
  0xbdbb00e4bd8f00bdbc00e5858500_bdbd00e58d8100bdbe00e5be9300_bdbf00e6888e00bdc000e69f9400,
  0xbdc100e6b18100bdc200e6b88b00_bdc300e78da300bdc400e7b8a600_bdc500e9878d00bdc600e98a8300,
  0xbdc700e58f9400bdc800e5a49900_bdc900e5aebf00bdca00e6b79100_bdcb00e7a59d00bdcc00e7b8ae00,
  0xbdcd00e7b29b00bdce00e5a1be00_bdcf00e7869f00bdd000e587ba00_bdd100e8a19300bdd200e8bfb000,
  0xbdd300e4bf8a00bdd400e5b3bb00_bdd500e698a500bdd600e79eac00_bdd700e7aba300bdd800e8889c00,
  0xbdd900e9a7bf00bdda00e5878600_bddb00e5beaa00bddc00e697ac00_bddd00e6a5af00bdde00e6ae8900,
  0xbddf00e6b7b300bde000e6ba9600_bde100e6bda400bde200e79bbe00_bde300e7b49400bde400e5b7a100,
  0xbde500e981b500bde600e9868700_bde700e9a08600bde800e587a600_bde900e5889d00bdea00e6898000,
  0xbdeb00e69a9100bdec00e69b9900_bded00e6b89a00bdee00e5bab600_bdef00e7b79200bdf000e7bdb200,
  0xbdf100e69bb800bdf200e896af00_bdf300e897b700bdf400e8abb800_bdf500e58aa900bdf600e58f9900,
  0xbdf700e5a5b300bdf800e5ba8f00_bdf900e5be9000bdfa00e6819500_bdfb00e98ba400bdfc00e999a400,
  0xbdfd00e582b700bdfe00e5849f00_bea100e58b9d00bea200e58ca000_bea300e58d8700bea400e58fac00,
  0xbea500e593a800bea600e5958600_bea700e594b100bea800e5989700_bea900e5a5a800beaa00e5a6be00,
  0xbeab00e5a8bc00beac00e5aeb500_bead00e5b08600beae00e5b08f00_beaf00e5b09100beb000e5b09a00,
  0xbeb100e5ba8400beb200e5ba8a00_beb300e5bba000beb400e5bdb000_beb500e689bf00beb600e68a8400,
  0xbeb700e68b9b00beb800e68e8c00_beb900e68db700beba00e6988700_bebb00e6988c00bebc00e698ad00,
  0xbebd00e699b600bebe00e69dbe00_bebf00e6a2a200bec000e6a89f00_bec100e6a8b500bec200e6b2bc00,
  0xbec300e6b68800bec400e6b88900_bec500e6b99800bec600e784bc00_bec700e784a600bec800e785a700,
  0xbec900e7978700beca00e79c8100_becb00e7a19d00becc00e7a48100_becd00e7a5a500bece00e7a7b000,
  0xbecf00e7aba000bed000e7ac9100_bed100e7b2a700bed200e7b4b900_bed300e8829600bed400e88f9600,
  0xbed500e8928b00bed600e8958900_bed700e8a19d00bed800e8a3b300_bed900e8a89f00beda00e8a8bc00,
  0xbedb00e8a99400bedc00e8a9b300_bedd00e8b1a100bede00e8b39e00_bedf00e986a400bee000e989a600,
  0xbee100e98dbe00bee200e9909800_bee300e99a9c00bee400e99e9800_bee500e4b88a00bee600e4b88800,
  0xbee700e4b89e00bee800e4b99700_bee900e5869700beea00e589b000_beeb00e59f8e00beec00e5a0b400,
  0xbeed00e5a38c00beee00e5aca200_beef00e5b8b800bef000e6838500_bef100e693be00bef200e69da100,
  0xbef300e69d9600bef400e6b58400_bef500e78ab600bef600e795b300_bef700e7a9a300bef800e892b800,
  0xbef900e8adb200befa00e986b800_befb00e98ca000befc00e598b100_befd00e59fb400befe00e9a3be00,
  0xbfa100e68bad00bfa200e6a48d00_bfa300e6ae9600bfa400e787ad00_bfa500e7b99400bfa600e881b700,
  0xbfa700e889b200bfa800e8a7a600_bfa900e9a39f00bfaa00e89d9500_bfab00e8beb100bfac00e5b0bb00,
  0xbfad00e4bcb800bfae00e4bfa100_bfaf00e4beb500bfb000e5948700_bfb100e5a8a000bfb200e5af9d00,
  0xbfb300e5afa900bfb400e5bf8300_bfb500e6858e00bfb600e68caf00_bfb700e696b000bfb800e6998b00,
  0xbfb900e6a3ae00bfba00e6a69b00_bfbb00e6b5b800bfbc00e6b7b100_bfbd00e794b300bfbe00e796b900,
  0xbfbf00e79c9f00bfc000e7a59e00_bfc100e7a7a600bfc200e7b4b300_bfc300e887a300bfc400e88aaf00,
  0xbfc500e896aa00bfc600e8a6aa00_bfc700e8a8ba00bfc800e8baab00_bfc900e8be9b00bfca00e980b200,
  0xbfcb00e9879d00bfcc00e99c8700_bfcd00e4baba00bfce00e4bb8100_bfcf00e5888300bfd000e5a1b500,
  0xbfd100e5a3ac00bfd200e5b08b00_bfd300e7949a00bfd400e5b0bd00_bfd500e8858e00bfd600e8a88a00,
  0xbfd700e8bf8500bfd800e999a300_bfd900e99dad00bfda00e7aca500_bfdb00e8ab8f00bfdc00e9a08800,
  0xbfdd00e985a200bfde00e59bb300_bfdf00e58ea800bfe000e9809700_bfe100e590b900bfe200e59e8200,
  0xbfe300e5b8a500bfe400e68ea800_bfe500e6b0b400bfe600e7828a00_bfe700e79da100bfe800e7b28b00,
  0xbfe900e7bfa000bfea00e8a1b000_bfeb00e9818200bfec00e9859400_bfed00e98c9000bfee00e98c9800,
  0xbfef00e99a8f00bff000e7919e00_bff100e9ab8400bff200e5b48700_bff300e5b5a900bff400e695b000,
  0xbff500e69ea200bff600e8b6a800_bff700e99b9b00bff800e68dae00_bff900e69d8900bffa00e6a49900,
  0xbffb00e88f8500bffc00e9a09700_bffd00e99b8000bffe00e8a3be00_c0a100e6be8400c0a200e691ba00,
  0xc0a300e5afb800c0a400e4b89600_c0a500e780ac00c0a600e7959d00_c0a700e698af00c0a800e5878400,
  0xc0a900e588b600c0aa00e58ba200_c0ab00e5a79300c0ac00e5be8100_c0ad00e680a700c0ae00e6889000,
  0xc0af00e694bf00c0b000e695b400_c0b100e6989f00c0b200e699b400_c0b300e6a3b200c0b400e6a09600,
  0xc0b500e6ada300c0b600e6b88500_c0b700e789b200c0b800e7949f00_c0b900e79b9b00c0ba00e7b2be00,
  0xc0bb00e8819600c0bc00e5a3b000_c0bd00e8a3bd00c0be00e8a5bf00_c0bf00e8aaa000c0c000e8aa9300,
  0xc0c100e8ab8b00c0c200e9809d00_c0c300e9869200c0c400e99d9200_c0c500e99d9900c0c600e6968900,
  0xc0c700e7a88e00c0c800e8848600_c0c900e99abb00c0ca00e5b8ad00_c0cb00e6839c00c0cc00e6889a00,
  0xc0cd00e696a500c0ce00e6989400_c0cf00e69e9000c0d000e79fb300_c0d100e7a98d00c0d200e7b18d00,
  0xc0d300e7b8be00c0d400e8848a00_c0d500e8b2ac00c0d600e8b5a400_c0d700e8b7a100c0d800e8b99f00,
  0xc0d900e7a2a900c0da00e5888700_c0db00e68b9900c0dc00e68ea500_c0dd00e6918200c0de00e68a9800,
  0xc0df00e8a8ad00c0e000e7aa8300_c0e100e7af8000c0e200e8aaac00_c0e300e99baa00c0e400e7b5b600,
  0xc0e500e8888c00c0e600e89d8900_c0e700e4bb9900c0e800e5858800_c0e900e58d8300c0ea00e58da000,
  0xc0eb00e5aea300c0ec00e5b08200_c0ed00e5b09600c0ee00e5b79d00_c0ef00e688a600c0f000e6898700,
  0xc0f100e692b000c0f200e6a09300_c0f300e6a0b400c0f400e6b38900_c0f500e6b58500c0f600e6b49700,
  0xc0f700e69f9300c0f800e6bd9c00_c0f900e7858e00c0fa00e785bd00_c0fb00e6978b00c0fc00e7a9bf00,
  0xc0fd00e7aead00c0fe00e7b79a00_c1a100e7b98a00c1a200e7bea800_c1a300e885ba00c1a400e8889b00,
  0xc1a500e888b900c1a600e896a600_c1a700e8a9ae00c1a800e8b38e00_c1a900e8b7b500c1aa00e981b800,
  0xc1ab00e981b700c1ac00e98aad00_c1ad00e98a9100c1ae00e9968300_c1af00e9aeae00c1b000e5898d00,
  0xc1b100e5968400c1b200e6bcb800_c1b300e784b600c1b400e585a800_c1b500e7a68500c1b600e7b99500,
  0xc1b700e886b300c1b800e7b38e00_c1b900e5998c00c1ba00e5a19100_c1bb00e5b2a800c1bc00e68eaa00,
  0xc1bd00e69bbe00c1be00e69bbd00_c1bf00e6a59a00c1c000e78b9900_c1c100e7968f00c1c200e7968e00,
  0xc1c300e7a48e00c1c400e7a59600_c1c500e7a79f00c1c600e7b29700_c1c700e7b4a000c1c800e7b58400,
  0xc1c900e8988700c1ca00e8a8b400_c1cb00e998bb00c1cc00e981a100_c1cd00e9bca000c1ce00e583a700,
  0xc1cf00e589b500c1d000e58f8c00_c1d100e58fa200c1d200e5808900_c1d300e596aa00c1d400e5a3ae00,
  0xc1d500e5a58f00c1d600e788bd00_c1d700e5ae8b00c1d800e5b1a400_c1d900e58c9d00c1da00e683a300,
  0xc1db00e683b300c1dc00e68d9c00_c1dd00e68e8300c1de00e68cbf00_c1df00e68ebb00c1e000e6938d00,
  0xc1e100e697a900c1e200e69bb900_c1e300e5b7a300c1e400e6a78d00_c1e500e6a7bd00c1e600e6bc9500,
  0xc1e700e787a500c1e800e4ba8900_c1e900e797a900c1ea00e79bb800_c1eb00e7aa9300c1ec00e7b39f00,
  0xc1ed00e7b78f00c1ee00e7b69c00_c1ef00e881a100c1f000e88d8900_c1f100e88d9800c1f200e891ac00,
  0xc1f300e892bc00c1f400e897bb00_c1f500e8a38500c1f600e8b5b000_c1f700e9808100c1f800e981ad00,
  0xc1f900e98e9700c1fa00e99c9c00_c1fb00e9a89200c1fc00e5838f00_c1fd00e5a29700c1fe00e6868e00,
  0xc2a100e8879300c2a200e894b500_c2a300e8b48800c2a400e980a000_c2a500e4bf8300c2a600e581b400,
  0xc2a700e5898700c2a800e58db300_c2a900e681af00c2aa00e68d8900_c2ab00e69d9f00c2ac00e6b8ac00,
  0xc2ad00e8b6b300c2ae00e9809f00_c2af00e4bf9700c2b000e5b19e00_c2b100e8b38a00c2b200e6978f00,
  0xc2b300e7b69a00c2b400e58d9200_c2b500e8a29600c2b600e585b600_c2b700e68f8300c2b800e5ad9800,
  0xc2b900e5adab00c2ba00e5b08a00_c2bb00e6908d00c2bc00e69d9100_c2bd00e9819c00c2be00e4bb9600,
  0xc2bf00e5a49a00c2c000e5a4aa00_c2c100e6b1b000c2c200e8a99100_c2c300e594be00c2c400e5a09500,
  0xc2c500e5a6a500c2c600e683b000_c2c700e6899300c2c800e69f8100_c2c900e888b500c2ca00e6a59500,
  0xc2cb00e9998000c2cc00e9a78400_c2cd00e9a8a800c2ce00e4bd9300_c2cf00e5a08600c2d000e5afbe00,
  0xc2d100e8809000c2d200e5b2b100_c2d300e5b8af00c2d400e5be8500_c2d500e680a000c2d600e6858b00,
  0xc2d700e688b400c2d800e69bbf00_c2d900e6b3b000c2da00e6bb9e00_c2db00e8838e00c2dc00e885bf00,
  0xc2dd00e88b9400c2de00e8a28b00_c2df00e8b2b800c2e000e9808000_c2e100e980ae00c2e200e99a8a00,
  0xc2e300e9bb9b00c2e400e9af9b00_c2e500e4bba300c2e600e58fb000_c2e700e5a4a700c2e800e7acac00,
  0xc2e900e9868d00c2ea00e9a18c00_c2eb00e9b7b900c2ec00e6bb9d00_c2ed00e780a700c2ee00e58d9300,
  0xc2ef00e5958400c2f000e5ae8500_c2f100e6899800c2f200e68a9e00_c2f300e68b9300c2f400e6b2a200,
  0xc2f500e6bfaf00c2f600e790a200_c2f700e8a89700c2f800e990b800_c2f900e6bf8100c2fa00e8abbe00,
  0xc2fb00e88cb800c2fc00e587a700_c2fd00e89bb800c2fe00e58faa00_c3a100e58fa900c3a200e4bd8600,
  0xc3a300e9819400c3a400e8beb000_c3a500e5a5aa00c3a600e884b100_c3a700e5b7bd00c3a800e7abaa00,
  0xc3a900e8bebf00c3aa00e6a39a00_c3ab00e8b0b700c3ac00e78bb800_c3ad00e9b18800c3ae00e6a8bd00,
  0xc3af00e8aab000c3b000e4b8b900_c3b100e58d9800c3b200e5988600_c3b300e59da600c3b400e68b8500,
  0xc3b500e68ea200c3b600e697a600_c3b700e6ad8e00c3b800e6b7a100_c3b900e6b99b00c3ba00e782ad00,
  0xc3bb00e79fad00c3bc00e7abaf00_c3bd00e7aeaa00c3be00e7b6bb00_c3bf00e880bd00c3c000e8838600,
  0xc3c100e89b8b00c3c200e8aa9500_c3c300e98d9b00c3c400e59ba300_c3c500e5a38700c3c600e5bcbe00,
  0xc3c700e696ad00c3c800e69a9600_c3c900e6aa8000c3ca00e6aeb500_c3cb00e794b700c3cc00e8ab8700,
  0xc3cd00e580a400c3ce00e79fa500_c3cf00e59cb000c3d000e5bc9b00_c3d100e681a500c3d200e699ba00,
  0xc3d300e6b1a000c3d400e797b400_c3d500e7a89a00c3d600e7bdae00_c3d700e887b400c3d800e89c9800,
  0xc3d900e9818500c3da00e9a6b300_c3db00e7af8900c3dc00e7959c00_c3dd00e7abb900c3de00e7ad9100,
  0xc3df00e8938400c3e000e9809000_c3e100e7a7a900c3e200e7aa9200_c3e300e88cb600c3e400e5aba100,
  0xc3e500e79d8000c3e600e4b8ad00_c3e700e4bbb200c3e800e5ae9900_c3e900e5bfa000c3ea00e68abd00,
  0xc3eb00e698bc00c3ec00e69fb100_c3ed00e6b3a800c3ee00e899ab00_c3ef00e8a1b700c3f000e8a8bb00,
  0xc3f100e9858e00c3f200e98bb300_c3f300e9a79000c3f400e6a89700_c3f500e780a600c3f600e78caa00,
  0xc3f700e88ba700c3f800e8919700_c3f900e8b2af00c3fa00e4b88100_c3fb00e5858600c3fc00e5878b00,
  0xc3fd00e5968b00c3fe00e5afb500_c4a100e5b89600c4a200e5b8b300_c4a300e5ba8100c4a400e5bc9400,
  0xc4a500e5bcb500c4a600e5bdab00_c4a700e5beb400c4a800e687b200_c4a900e68c9100c4aa00e69aa200,
  0xc4ab00e69c9d00c4ac00e6bdae00_c4ad00e7899200c4ae00e794ba00_c4af00e79cba00c4b000e881b400,
  0xc4b100e884b900c4b200e885b800_c4b300e89db600c4b400e8aabf00_c4b500e8ab9c00c4b600e8b68500,
  0xc4b700e8b7b300c4b800e98a9a00_c4b900e995b700c4ba00e9a08200_c4bb00e9b3a500c4bc00e58b8500,
  0xc4bd00e68d9700c4be00e79bb400_c4bf00e69c9500c4c000e6b28800_c4c100e78f8d00c4c200e8b38300,
  0xc4c300e98eae00c4c400e999b300_c4c500e6b4a500c4c600e5a29c00_c4c700e6a48e00c4c800e6a78c00,
  0xc4c900e8bfbd00c4ca00e98e9a00_c4cb00e7979b00c4cc00e9809a00_c4cd00e5a19a00c4ce00e6a08200,
  0xc4cf00e68eb400c4d000e6a7bb00_c4d100e4bd8300c4d200e6bcac00_c4d300e69f9800c4d400e8bebb00,
  0xc4d500e894a600c4d600e7b6b400_c4d700e98d9400c4d800e6a4bf00_c4d900e6bdb000c4da00e59daa00,
  0xc4db00e5a3b700c4dc00e5acac00_c4dd00e7b4ac00c4de00e788aa00_c4df00e5908a00c4e000e987a300,
  0xc4e100e9b6b400c4e200e4baad00_c4e300e4bd8e00c4e400e5819c00_c4e500e581b500c4e600e5898300,
  0xc4e700e8b29e00c4e800e5918800_c4e900e5a0a400c4ea00e5ae9a00_c4eb00e5b89d00c4ec00e5ba9500,
  0xc4ed00e5baad00c4ee00e5bbb700_c4ef00e5bc9f00c4f000e6828c00_c4f100e68ab500c4f200e68cba00,
  0xc4f300e68f9000c4f400e6a2af00_c4f500e6b18000c4f600e7a28700_c4f700e7a68e00c4f800e7a88b00,
  0xc4f900e7b7a000c4fa00e8898700_c4fb00e8a88200c4fc00e8aba600_c4fd00e8b98400c4fe00e9809300,
  0xc5a100e982b800c5a200e984ad00_c5a300e9879800c5a400e9bc8e00_c5a500e6b3a500c5a600e6919800,
  0xc5a700e693a200c5a800e695b500_c5a900e6bbb400c5aa00e79a8400_c5ab00e7ac9b00c5ac00e981a900,
  0xc5ad00e98f9100c5ae00e6baba00_c5af00e593b200c5b000e5beb900_c5b100e692a400c5b200e8bd8d00,
  0xc5b300e8bfad00c5b400e9898400_c5b500e585b800c5b600e5a1ab00_c5b700e5a4a900c5b800e5b19500,
  0xc5b900e5ba9700c5ba00e6b7bb00_c5bb00e7ba8f00c5bc00e7949c00_c5bd00e8b2bc00c5be00e8bba200,
  0xc5bf00e9a19b00c5c000e782b900_c5c100e4bc9d00c5c200e6aebf00_c5c300e6beb100c5c400e794b000,
  0xc5c500e99bbb00c5c600e5858e00_c5c700e5909000c5c800e5a0b500_c5c900e5a19700c5ca00e5a6ac00,
  0xc5cb00e5b1a000c5cc00e5be9200_c5cd00e6969700c5ce00e69d9c00_c5cf00e6b8a100c5d000e799bb00,
  0xc5d100e88f9f00c5d200e8b3ad00_c5d300e9809400c5d400e983bd00_c5d500e98d8d00c5d600e7a0a500,
  0xc5d700e7a0ba00c5d800e58aaa00_c5d900e5baa600c5da00e59c9f00_c5db00e5a5b400c5dc00e6809200,
  0xc5dd00e5809200c5de00e5859a00_c5df00e586ac00c5e000e5878d00_c5e100e5888000c5e200e5949000,
  0xc5e300e5a19400c5e400e5a19800_c5e500e5a59700c5e600e5ae9500_c5e700e5b3b600c5e800e5b68b00,
  0xc5e900e682bc00c5ea00e68a9500_c5eb00e690ad00c5ec00e69db100_c5ed00e6a18300c5ee00e6a2bc00,
  0xc5ef00e6a39f00c5f000e79b9700_c5f100e6b79800c5f200e6b9af00_c5f300e6b69b00c5f400e781af00,
  0xc5f500e7878800c5f600e5bd9300_c5f700e7979800c5f800e7a5b700_c5f900e7ad8900c5fa00e7ad9400,
  0xc5fb00e7ad9200c5fc00e7b39600_c5fd00e7b5b100c5fe00e588b000_c6a100e891a300c6a200e895a900,
  0xc6a300e897a400c6a400e8a88e00_c6a500e8ac8400c6a600e8b18600_c6a700e8b88f00c6a800e9808300,
  0xc6a900e9808f00c6aa00e9909900_c6ab00e999b600c6ac00e9a0ad00_c6ad00e9a8b000c6ae00e9979800,
  0xc6af00e5838d00c6b000e58b9500_c6b100e5908c00c6b200e5a08200_c6b300e5b08e00c6b400e686a700,
  0xc6b500e6929e00c6b600e6b49e00_c6b700e79eb300c6b800e7aba500_c6b900e883b400c6ba00e8908400,
  0xc6bb00e9819300c6bc00e98a8500_c6bd00e5b3a000c6be00e9b48700_c6bf00e58cbf00c6c000e5be9700,
  0xc6c100e5beb300c6c200e6b69c00_c6c300e789b900c6c400e79da300_c6c500e7a6bf00c6c600e7afa400,
  0xc6c700e6af9200c6c800e78bac00_c6c900e8aaad00c6ca00e6a08300_c6cb00e6a9a100c6cc00e587b800,
  0xc6cd00e7aa8100c6ce00e6a4b400_c6cf00e5b18a00c6d000e9b3b600_c6d100e88bab00c6d200e5af8500,
  0xc6d300e9858900c6d400e7809e00_c6d500e599b800c6d600e5b1af00_c6d700e6838700c6d800e695a600,
  0xc6d900e6b28c00c6da00e8b19a00_c6db00e9818100c6dc00e9a09300_c6dd00e5919100c6de00e69b8700,
  0xc6df00e9888d00c6e000e5a58800_c6e100e982a300c6e200e5868500_c6e300e4b98d00c6e400e587aa00,
  0xc6e500e8969900c6e600e8ac8e00_c6e700e7819800c6e800e68dba00_c6e900e98d8b00c6ea00e6a5a200,
  0xc6eb00e9a6b400c6ec00e7b88400_c6ed00e795b700c6ee00e58d9700_c6ef00e6a5a000c6f000e8bb9f00,
  0xc6f100e99ba300c6f200e6b19d00_c6f300e4ba8c00c6f400e5b0bc00_c6f500e5bc9000c6f600e8bfa900,
  0xc6f700e58c8200c6f800e8b39100_c6f900e8828900c6fa00e899b900_c6fb00e5bbbf00c6fc00e697a500,
  0xc6fd00e4b9b300c6fe00e585a500_c7a100e5a68200c7a200e5b0bf00_c7a300e99fae00c7a400e4bbbb00,
  0xc7a500e5a68a00c7a600e5bf8d00_c7a700e8aa8d00c7a800e6bfa100_c7a900e7a6b000c7aa00e7a5a200,
  0xc7ab00e5afa700c7ac00e891b100_c7ad00e78cab00c7ae00e786b100_c7af00e5b9b400c7b000e5bfb500,
  0xc7b100e68dbb00c7b200e6929a00_c7b300e7878300c7b400e7b29800_c7b500e4b98300c7b600e5bbbc00,
  0xc7b700e4b98b00c7b800e59f9c00_c7b900e59aa200c7ba00e682a900_c7bb00e6bf8300c7bc00e7b48d00,
  0xc7bd00e883bd00c7be00e884b300_c7bf00e886bf00c7c000e8beb200_c7c100e8a69700c7c200e89aa400,
  0xc7c300e5b7b400c7c400e68a8a00_c7c500e692ad00c7c600e8a68700_c7c700e69db700c7c800e6b3a200,
  0xc7c900e6b4be00c7ca00e790b600_c7cb00e7a0b400c7cc00e5a98600_c7cd00e7bdb500c7ce00e88aad00,
  0xc7cf00e9a6ac00c7d000e4bfb300_c7d100e5bb8300c7d200e68b9d00_c7d300e68e9200c7d400e6959700,
  0xc7d500e69daf00c7d600e79b8300_c7d700e7898c00c7d800e8838c00_c7d900e882ba00c7da00e8bca900,
  0xc7db00e9858d00c7dc00e5808d00_c7dd00e59fb900c7de00e5aa9200_c7df00e6a28500c7e000e6a5b300,
  0xc7e100e785a400c7e200e78bbd00_c7e300e8b2b700c7e400e5a3b200_c7e500e8b3a000c7e600e999aa00,
  0xc7e700e9809900c7e800e89dbf00_c7e900e7a7a400c7ea00e79fa700_c7eb00e890a900c7ec00e4bcaf00,
  0xc7ed00e589a500c7ee00e58d9a00_c7ef00e68b8d00c7f000e69f8f00_c7f100e6b38a00c7f200e799bd00,
  0xc7f300e7ae9400c7f400e7b29500_c7f500e888b600c7f600e8968400_c7f700e8bfab00c7f800e69b9d00,
  0xc7f900e6bca000c7fa00e7888600_c7fb00e7b89b00c7fc00e88eab00_c7fd00e9a78100c7fe00e9baa600,
  0xc8a100e587bd00c8a200e7aeb100_c8a300e7a1b200c8a400e7aeb800_c8a500e8828700c8a600e7ad8800,
  0xc8a700e6aba800c8a800e5b9a100_c8a900e8828c00c8aa00e7959100_c8ab00e795a000c8ac00e585ab00,
  0xc8ad00e989a200c8ae00e6ba8c00_c8af00e799ba00c8b000e9869700_c8b100e9abaa00c8b200e4bc9000,
  0xc8b300e7bdb000c8b400e68a9c00_c8b500e7ad8f00c8b600e996a500_c8b700e9b3a900c8b800e599ba00,
  0xc8b900e5a19900c8ba00e89ba400_c8bb00e99abc00c8bc00e4bcb400_c8bd00e588a400c8be00e58d8a00,
  0xc8bf00e58f8d00c8c000e58f9b00_c8c100e5b88600c8c200e690ac00_c8c300e6969100c8c400e69dbf00,
  0xc8c500e6b0be00c8c600e6b18e00_c8c700e7898800c8c800e78aaf00_c8c900e78fad00c8ca00e7959400,
  0xc8cb00e7b98100c8cc00e888ac00_c8cd00e897a900c8ce00e8b2a900_c8cf00e7af8400c8d000e9878600,
  0xc8d100e785a900c8d200e9a09200_c8d300e9a3af00c8d400e68cbd00_c8d500e699a900c8d600e795aa00,
  0xc8d700e79ba400c8d800e7a39000_c8d900e8958300c8da00e89bae00_c8db00e58caa00c8dc00e58d9100,
  0xc8dd00e590a600c8de00e5a68300_c8df00e5ba8700c8e000e5bdbc00_c8e100e682b200c8e200e6898900,
  0xc8e300e689b900c8e400e68aab00_c8e500e6969000c8e600e6af9400_c8e700e6b38c00c8e800e796b200,
  0xc8e900e79aae00c8ea00e7a29100_c8eb00e7a79800c8ec00e7b78b00_c8ed00e7bdb700c8ee00e882a500,
  0xc8ef00e8a2ab00c8f000e8aab900_c8f100e8b2bb00c8f200e981bf00_c8f300e99d9e00c8f400e9a39b00,
  0xc8f500e6a88b00c8f600e7b0b800_c8f700e5829900c8f800e5b0be00_c8f900e5beae00c8fa00e69e8700,
  0xc8fb00e6af9800c8fc00e790b500_c8fd00e79c8900c8fe00e7be8e00_c9a100e9bcbb00c9a200e69f8a00,
  0xc9a300e7a89700c9a400e58cb900_c9a500e7968b00c9a600e9abad00_c9a700e5bda600c9a800e8869d00,
  0xc9a900e88fb100c9aa00e8829800_c9ab00e5bcbc00c9ac00e5bf8500_c9ad00e795a200c9ae00e7ad8600,
  0xc9af00e980bc00c9b000e6a1a700_c9b100e5a7ab00c9b200e5aa9b00_c9b300e7b49000c9b400e799be00,
  0xc9b500e8acac00c9b600e4bfb500_c9b700e5bdaa00c9b800e6a89900_c9b900e6b0b700c9ba00e6bc8200,
  0xc9bb00e793a200c9bc00e7a5a800_c9bd00e8a1a800c9be00e8a99500_c9bf00e8b1b900c9c000e5bb9f00,
  0xc9c100e68f8f00c9c200e7978500_c9c300e7a79200c9c400e88b9700_c9c500e98ca800c9c600e98bb200,
  0xc9c700e8929c00c9c800e89bad00_c9c900e9b0ad00c9ca00e5938100_c9cb00e5bdac00c9cc00e6968c00,
  0xc9cd00e6b59c00c9ce00e7809500_c9cf00e8b2a700c9d000e8b39300_c9d100e9a0bb00c9d200e6958f00,
  0xc9d300e793b600c9d400e4b88d00_c9d500e4bb9800c9d600e59fa000_c9d700e5a4ab00c9d800e5a9a600,
  0xc9d900e5af8c00c9da00e586a800_c9db00e5b88300c9dc00e5ba9c00_c9dd00e6809600c9de00e689b600,
  0xc9df00e695b700c9e000e696a700_c9e100e699ae00c9e200e6b5ae00_c9e300e788b600c9e400e7aca600,
  0xc9e500e8859000c9e600e8869a00_c9e700e88a9900c9e800e8ad9c00_c9e900e8b2a000c9ea00e8b3a600,
  0xc9eb00e8b5b400c9ec00e9989c00_c9ed00e9998400c9ee00e4beae00_c9ef00e692ab00c9f000e6ada600,
  0xc9f100e8889e00c9f200e891a100_c9f300e895aa00c9f400e983a800_c9f500e5b08100c9f600e6a59300,
  0xc9f700e9a2a800c9f800e891ba00_c9f900e8959700c9fa00e4bc8f00_c9fb00e589af00c9fc00e5bea900,
  0xc9fd00e5b98500c9fe00e69c8d00_caa100e7a68f00caa200e885b900_caa300e8a48700caa400e8a68600,
  0xcaa500e6b7b500caa600e5bc9700_caa700e6899500caa800e6b2b800_caa900e4bb8f00caaa00e789a900,
  0xcaab00e9ae9200caac00e5888600_caad00e590bb00caae00e599b400_caaf00e5a2b300cab000e686a400,
  0xcab100e689ae00cab200e7849a00_cab300e5a5ae00cab400e7b28900_cab500e7b39e00cab600e7b49b00,
  0xcab700e99bb000cab800e6968700_cab900e8819e00caba00e4b89900_cabb00e4bdb500cabc00e585b500,
  0xcabd00e5a18000cabe00e5b9a300_cabf00e5b9b300cac000e5bc8a00_cac100e69f8400cac200e4b8a600,
  0xcac300e894bd00cac400e9968900_cac500e9999b00cac600e7b1b300_cac700e9a08100cac800e583bb00,
  0xcac900e5a38100caca00e7999600_cacb00e7a2a700cacc00e588a500_cacd00e79ea500cace00e8949100,
  0xcacf00e7ae8600cad000e5818f00_cad100e5a48900cad200e7898700_cad300e7af8700cad400e7b7a800,
  0xcad500e8beba00cad600e8bf9400_cad700e9818d00cad800e4bebf00_cad900e58b8900cada00e5a8a900,
  0xcadb00e5bc8100cadc00e99ead00_cadd00e4bf9d00cade00e8889700_cadf00e98baa00cae000e59c8300,
  0xcae100e68d9500cae200e6ada900_cae300e794ab00cae400e8a39c00_cae500e8bc9400cae600e7a98200,
  0xcae700e58b9f00cae800e5a29300_cae900e6859500caea00e6888a00_caeb00e69aae00caec00e6af8d00,
  0xcaed00e7b0bf00caee00e88fa900_caef00e580a300caf000e4bfb800_caf100e58c8500caf200e5918600,
  0xcaf300e5a0b100caf400e5a58900_caf500e5ae9d00caf600e5b3b000_caf700e5b3af00caf800e5b4a900,
  0xcaf900e5ba9600cafa00e68ab100_cafb00e68da700cafc00e694be00_cafd00e696b900cafe00e69c8b00,
  0xcba100e6b39500cba200e6b3a100_cba300e783b900cba400e7a0b200_cba500e7b8ab00cba600e8839e00,
  0xcba700e88ab300cba800e8908c00_cba900e893ac00cbaa00e89c8200_cbab00e8a49200cbac00e8a8aa00,
  0xcbad00e8b18a00cbae00e982a600_cbaf00e98b9200cbb000e9a3bd00_cbb100e9b3b300cbb200e9b5ac00,
  0xcbb300e4b98f00cbb400e4baa100_cbb500e5828d00cbb600e5899600_cbb700e59d8a00cbb800e5a6a800,
  0xcbb900e5b8bd00cbba00e5bf9800_cbbb00e5bf9900cbbc00e688bf00_cbbd00e69ab400cbbe00e69c9b00,
  0xcbbf00e69f9000cbc000e6a39200_cbc100e5869200cbc200e7b4a100_cbc300e882aa00cbc400e886a800,
  0xcbc500e8ac8000cbc600e8b28c00_cbc700e8b2bf00cbc800e989be00_cbc900e998b200cbca00e590a000,
  0xcbcb00e9a0ac00cbcc00e58c9700_cbcd00e5839500cbce00e58d9c00_cbcf00e5a2a800cbd000e692b200,
  0xcbd100e69cb400cbd200e789a700_cbd300e79da600cbd400e7a98600_cbd500e987a600cbd600e58b8300,
  0xcbd700e6b2a100cbd800e6ae8600_cbd900e5a08000cbda00e5b98c00_cbdb00e5a59400cbdc00e69cac00,
  0xcbdd00e7bfbb00cbde00e587a100_cbdf00e79b8600cbe000e691a900_cbe100e7a3a800cbe200e9ad9400,
  0xcbe300e9babb00cbe400e59f8b00_cbe500e5a6b900cbe600e698a700_cbe700e69e9a00cbe800e6af8e00,
  0xcbe900e593a900cbea00e6a79900_cbeb00e5b99500cbec00e8869c00_cbed00e69e9500cbee00e9aeaa00,
  0xcbef00e69fbe00cbf000e9b19200_cbf100e6a19d00cbf200e4baa600_cbf300e4bfa300cbf400e58f8800,
  0xcbf500e68ab900cbf600e69cab00_cbf700e6b2ab00cbf800e8bf8400_cbf900e4bead00cbfa00e7b9ad00,
  0xcbfb00e9babf00cbfc00e4b88700_cbfd00e685a200cbfe00e6ba8000_cca100e6bcab00cca200e8949300,
  0xcca300e591b300cca400e69caa00_cca500e9ad8500cca600e5b7b300_cca700e7ae9500cca800e5b2ac00,
  0xcca900e5af8600ccaa00e89c9c00_ccab00e6b98a00ccac00e8939100_ccad00e7a89400ccae00e8848800,
  0xccaf00e5a69900ccb000e7b28d00_ccb100e6b09100ccb200e79ca000_ccb300e58b9900ccb400e5a4a200,
  0xccb500e784a100ccb600e7899f00_ccb700e79f9b00ccb800e99ca700_ccb900e9b5a100ccba00e6a48b00,
  0xccbb00e5a9bf00ccbc00e5a89800_ccbd00e586a500ccbe00e5908d00_ccbf00e591bd00ccc000e6988e00,
  0xccc100e79b9f00ccc200e8bfb700_ccc300e98a9800ccc400e9b3b400_ccc500e5a7aa00ccc600e7899d00,
  0xccc700e6bb8500ccc800e5858d00_ccc900e6a38900ccca00e7b6bf00_cccb00e7b7ac00cccc00e99da200,
  0xcccd00e9baba00ccce00e691b800_cccf00e6a8a100ccd000e88c8200_ccd100e5a68400ccd200e5ad9f00,
  0xccd300e6af9b00ccd400e78c9b00_ccd500e79bb200ccd600e7b6b200_ccd700e8809700ccd800e8929900,
  0xccd900e584b200ccda00e69ca800_ccdb00e9bb9900ccdc00e79bae00_ccdd00e69da200ccde00e58bbf00,
  0xccdf00e9a48500cce000e5b0a400_cce100e688bb00cce200e7b1be00_cce300e8b2b000cce400e5958f00,
  0xcce500e682b600cce600e7b48b00_cce700e9968000cce800e58c8100_cce900e4b99f00ccea00e586b600,
  0xcceb00e5a49c00ccec00e788ba00_cced00e880b600ccee00e9878e00_ccef00e5bca500ccf000e79fa200,
  0xccf100e58e8400ccf200e5bdb900_ccf300e7b48400ccf400e896ac00_ccf500e8a8b300ccf600e8ba8d00,
  0xccf700e99d9600ccf800e69fb300_ccf900e896ae00ccfa00e9919300_ccfb00e6848900ccfc00e6848800,
  0xccfd00e6b2b900ccfe00e7999200_cda100e8abad00cda200e8bcb800_cda300e594af00cda400e4bd9100,
  0xcda500e584aa00cda600e58b8700_cda700e58f8b00cda800e5aea500_cda900e5b9bd00cdaa00e682a000,
  0xcdab00e6868200cdac00e68f9600_cdad00e69c8900cdae00e69f9a00_cdaf00e6b9a700cdb000e6b68c00,
  0xcdb100e78cb600cdb200e78cb700_cdb300e794b100cdb400e7a59000_cdb500e8a39500cdb600e8aa9800,
  0xcdb700e9818a00cdb800e9829100_cdb900e983b500cdba00e99b8400_cdbb00e89e8d00cdbc00e5a49500,
  0xcdbd00e4ba8800cdbe00e4bd9900_cdbf00e4b88e00cdc000e8aa8900_cdc100e8bcbf00cdc200e9a09000,
  0xcdc300e582ad00cdc400e5b9bc00_cdc500e5a69600cdc600e5aeb900_cdc700e5bab800cdc800e68f9a00,
  0xcdc900e68fba00cdca00e6938100_cdcb00e69b9c00cdcc00e6a58a00_cdcd00e6a79800cdce00e6b48b00,
  0xcdcf00e6bab600cdd000e7869400_cdd100e794a800cdd200e7aaaf00_cdd300e7be8a00cdd400e8808000,
  0xcdd500e8918900cdd600e8938900_cdd700e8a68100cdd800e8aca100_cdd900e8b88a00cdda00e981a500,
  0xcddb00e999bd00cddc00e9a48a00_cddd00e685be00cdde00e68a9100_cddf00e6acb200cde000e6b28300,
  0xcde100e6b5b400cde200e7bf8c00_cde300e7bfbc00cde400e6b78000_cde500e7be8500cde600e89eba00,
  0xcde700e8a3b800cde800e69da500_cde900e88eb100cdea00e9a0bc00_cdeb00e99bb700cdec00e6b49b00,
  0xcded00e7b5a100cdee00e890bd00_cdef00e985aa00cdf000e4b9b100_cdf100e58db500cdf200e5b59000,
  0xcdf300e6ac8400cdf400e6bfab00_cdf500e8978d00cdf600e898ad00_cdf700e8a6a700cdf800e588a900,
  0xcdf900e5908f00cdfa00e5b1a500_cdfb00e69d8e00cdfc00e6a2a800_cdfd00e7908600cdfe00e7928300,
  0xcea100e797a200cea200e8a38f00_cea300e8a3a100cea400e9878c00_cea500e99ba200cea600e999b800,
  0xcea700e5be8b00cea800e78e8700_cea900e7ab8b00ceaa00e8918e00_ceab00e68ea000ceac00e795a500,
  0xcead00e58a8900ceae00e6b58100_ceaf00e6ba9c00ceb000e7908900_ceb100e7959900ceb200e7a1ab00,
  0xceb300e7b29200ceb400e99a8600_ceb500e7ab9c00ceb600e9be8d00_ceb700e4beb600ceb800e685ae00,
  0xceb900e6978500ceba00e8999c00_cebb00e4ba8600cebc00e4baae00_cebd00e5839a00cebe00e4b8a100,
  0xcebf00e5878c00cec000e5afae00_cec100e6969900cec200e6a28100_cec300e6b6bc00cec400e78c9f00,
  0xcec500e7998200cec600e79ead00_cec700e7a89c00cec800e7b3a700_cec900e889af00ceca00e8ab9200,
  0xcecb00e981bc00cecc00e9878f00_cecd00e999b500cece00e9a09800_cecf00e58a9b00ced000e7b79100,
  0xced100e580ab00ced200e58e9800_ced300e69e9700ced400e6b78b00_ced500e7879000ced600e790b300,
  0xced700e887a800ced800e8bcaa00_ced900e99aa300ceda00e9b19700_cedb00e9ba9f00cedc00e791a000,
  0xcedd00e5a18100cede00e6b69900_cedf00e7b4af00cee000e9a19e00_cee100e4bba400cee200e4bcb600,
  0xcee300e4be8b00cee400e586b700_cee500e58ab100cee600e5b6ba00_cee700e6809c00cee800e78eb200,
  0xcee900e7a4bc00ceea00e88b9300_ceeb00e988b400ceec00e99ab700_ceed00e99bb600ceee00e99c8a00,
  0xceef00e9ba9700cef000e9bda200_cef100e69aa600cef200e6adb400_cef300e5889700cef400e58aa300,
  0xcef500e7838800cef600e8a38200_cef700e5bb8900cef800e6818b00_cef900e6869000cefa00e6bca300,
  0xcefb00e7858900cefc00e7b0be00_cefd00e7b7b400cefe00e881af00_cfa100e893ae00cfa200e980a300,
  0xcfa300e98cac00cfa400e5918200_cfa500e9adaf00cfa600e6ab9300_cfa700e7828900cfa800e8b38200,
  0xcfa900e8b7af00cfaa00e99cb200_cfab00e58ab400cfac00e5a98100_cfad00e5bb8a00cfae00e5bc8400,
  0xcfaf00e69c9700cfb000e6a5bc00_cfb100e6a69400cfb200e6b5aa00_cfb300e6bc8f00cfb400e789a200,
  0xcfb500e78bbc00cfb600e7afad00_cfb700e8808100cfb800e881be00_cfb900e89d8b00cfba00e9838e00,
  0xcfbb00e585ad00cfbc00e9ba9300_cfbd00e7a68400cfbe00e8828b00_cfbf00e98cb200cfc000e8ab9600,
  0xcfc100e580ad00cfc200e5928c00_cfc300e8a9b100cfc400e6adaa00_cfc500e8b38400cfc600e8848700,
  0xcfc700e6839100cfc800e69ea000_cfc900e9b7b200cfca00e4ba9900_cfcb00e4ba9800cfcc00e9b09000,
  0xcfcd00e8a9ab00cfce00e8978100_cfcf00e895a800cfd000e6a48000_cfd100e6b9be00cfd200e7a29700,
  0xcfd300e8859500cfd400f0a0ae9f_cfd500e5ad8100cfd600e5ad9600_cfd700e5adbd00cfd800e5ae9300,
  0xcfd900e5af9800cfda00e5afac00_cfdb00e5b09200cfdc00e5b09e00_cfdd00e5b0a300cfde00e5b0ab00,
  0xcfdf00e39e8d00cfe000e5b1a200_cfe100efa8bb00cfe200efa8bc00_cfe300f0a19ab4cfe400e5b1ba00,
  0xcfe500e5b28f00cfe600e5b29f00_cfe700e5b2a300cfe800e5b2aa00_cfe900e5b2ba00cfea00e5b38b00,
  0xcfeb00e5b39000cfec00e5b39200_cfed00e5b3b400cfee00f0a1b8b4_cfef00e39fa200cff000e5b48d00,
  0xcff100e5b4a700cff200efa89100_cff300e5b58600cff400e5b58700_cff500e5b59300cff600e5b58a00,
  0xcff700e5b5ad00cff800e5b68100_cff900e5b6a000cffa00e5b6a400_cffb00e5b6a700cffc00e5b6b800,
  0xcffd00e5b78b00cffe00e5909e00_d0a100e5bc8c00d0a200e4b89000_d0a300e4b89500d0a400e4b8aa00,
  0xd0a500e4b8b100d0a600e4b8b600_d0a700e4b8bc00d0a800e4b8bf00_d0a900e4b98200d0aa00e4b99600,
  0xd0ab00e4b99800d0ac00e4ba8200_d0ad00e4ba8500d0ae00e8b1ab00_d0af00e4ba8a00d0b000e8889200,
  0xd0b100e5bc8d00d0b200e4ba8e00_d0b300e4ba9e00d0b400e4ba9f00_d0b500e4baa000d0b600e4baa200,
  0xd0b700e4bab000d0b800e4bab300_d0b900e4bab600d0ba00e4bb8e00_d0bb00e4bb8d00d0bc00e4bb8400,
  0xd0bd00e4bb8600d0be00e4bb8200_d0bf00e4bb9700d0c000e4bb9e00_d0c100e4bbad00d0c200e4bb9f00,
  0xd0c300e4bbb700d0c400e4bc8900_d0c500e4bd9a00d0c600e4bcb000_d0c700e4bd9b00d0c800e4bd9d00,
  0xd0c900e4bd9700d0ca00e4bd8700_d0cb00e4bdb600d0cc00e4be8800_d0cd00e4be8f00d0ce00e4be9800,
  0xd0cf00e4bdbb00d0d000e4bda900_d0d100e4bdb000d0d200e4be9100_d0d300e4bdaf00d0d400e4be8600,
  0xd0d500e4be9600d0d600e5849800_d0d700e4bf9400d0d800e4bf9f00_d0d900e4bf8e00d0da00e4bf9800,
  0xd0db00e4bf9b00d0dc00e4bf9100_d0dd00e4bf9a00d0de00e4bf9000_d0df00e4bfa400d0e000e4bfa500,
  0xd0e100e5809a00d0e200e580a800_d0e300e5809400d0e400e580aa00_d0e500e580a500d0e600e5808500,
  0xd0e700e4bc9c00d0e800e4bfb600_d0e900e580a100d0ea00e580a900_d0eb00e580ac00d0ec00e4bfbe00,
  0xd0ed00e4bfaf00d0ee00e5809100_d0ef00e5808600d0f000e5818300_d0f100e5818700d0f200e69c8300,
  0xd0f300e5819500d0f400e5819000_d0f500e5818800d0f600e5819a00_d0f700e5819600d0f800e581ac00,
  0xd0f900e581b800d0fa00e5828000_d0fb00e5829a00d0fc00e5828500_d0fd00e582b400d0fe00e582b200,
  0xd1a100e5838900d1a200e5838a00_d1a300e582b300d1a400e5838200_d1a500e5839600d1a600e5839e00,
  0xd1a700e583a500d1a800e583ad00_d1a900e583a300d1aa00e583ae00_d1ab00e583b900d1ac00e583b500,
  0xd1ad00e5848900d1ae00e5848100_d1af00e5848200d1b000e5849600_d1b100e5849500d1b200e5849400,
  0xd1b300e5849a00d1b400e584a100_d1b500e584ba00d1b600e584b700_d1b700e584bc00d1b800e584bb00,
  0xd1b900e584bf00d1ba00e5858000_d1bb00e5859200d1bc00e5858c00_d1bd00e5859400d1be00e585a200,
  0xd1bf00e7abb800d1c000e585a900_d1c100e585aa00d1c200e585ae00_d1c300e5868000d1c400e5868200,
  0xd1c500e59b9800d1c600e5868c00_d1c700e5868900d1c800e5868f00_d1c900e5869100d1ca00e5869300,
  0xd1cb00e5869500d1cc00e5869600_d1cd00e586a400d1ce00e586a600_d1cf00e586a200d1d000e586a900,
  0xd1d100e586aa00d1d200e586ab00_d1d300e586b300d1d400e586b100_d1d500e586b200d1d600e586b000,
  0xd1d700e586b500d1d800e586bd00_d1d900e5878500d1da00e5878900_d1db00e5879b00d1dc00e587a000,
  0xd1dd00e8999500d1de00e587a900_d1df00e587ad00d1e000e587b000_d1e100e587b500d1e200e587be00,
  0xd1e300e5888400d1e400e5888b00_d1e500e5889400d1e600e5888e00_d1e700e588a700d1e800e588aa00,
  0xd1e900e588ae00d1ea00e588b300_d1eb00e588b900d1ec00e5898f00_d1ed00e5898400d1ee00e5898b00,
  0xd1ef00e5898c00d1f000e5899e00_d1f100e5899400d1f200e589aa00_d1f300e589b400d1f400e589a900,
  0xd1f500e589b300d1f600e589bf00_d1f700e589bd00d1f800e58a8d00_d1f900e58a9400d1fa00e58a9200,
  0xd1fb00e589b100d1fc00e58a8800_d1fd00e58a9100d1fe00e8bea800_d2a100e8bea700d2a200e58aac00,
  0xd2a300e58aad00d2a400e58abc00_d2a500e58ab500d2a600e58b8100_d2a700e58b8d00d2a800e58b9700,
  0xd2a900e58b9e00d2aa00e58ba300_d2ab00e58ba600d2ac00e9a3ad00_d2ad00e58ba000d2ae00e58bb300,
  0xd2af00e58bb500d2b000e58bb800_d2b100e58bb900d2b200e58c8600_d2b300e58c8800d2b400e794b800,
  0xd2b500e58c8d00d2b600e58c9000_d2b700e58c8f00d2b800e58c9500_d2b900e58c9a00d2ba00e58ca300,
  0xd2bb00e58caf00d2bc00e58cb100_d2bd00e58cb300d2be00e58cb800_d2bf00e58d8000d2c000e58d8600,
  0xd2c100e58d8500d2c200e4b89700_d2c300e58d8900d2c400e58d8d00_d2c500e5879600d2c600e58d9e00,
  0xd2c700e58da900d2c800e58dae00_d2c900e5a49800d2ca00e58dbb00_d2cb00e58db700d2cc00e58e8200,
  0xd2cd00e58e9600d2ce00e58ea000_d2cf00e58ea600d2d000e58ea500_d2d100e58eae00d2d200e58eb000,
  0xd2d300e58eb600d2d400e58f8300_d2d500e7b09200d2d600e99b9900_d2d700e58f9f00d2d800e69bbc00,
  0xd2d900e787ae00d2da00e58fae00_d2db00e58fa800d2dc00e58fad00_d2dd00e58fba00d2de00e5908100,
  0xd2df00e590bd00d2e000e5918000_d2e100e590ac00d2e200e590ad00_d2e300e590bc00d2e400e590ae00,
  0xd2e500e590b600d2e600e590a900_d2e700e5909d00d2e800e5918e00_d2e900e5928f00d2ea00e591b500,
  0xd2eb00e5928e00d2ec00e5919f00_d2ed00e591b100d2ee00e591b700_d2ef00e591b000d2f000e5929200,
  0xd2f100e591bb00d2f200e5928000_d2f300e591b600d2f400e5928400_d2f500e5929000d2f600e5928600,
  0xd2f700e5938700d2f800e592a200_d2f900e592b800d2fa00e592a500_d2fb00e592ac00d2fc00e5938400,
  0xd2fd00e5938800d2fe00e592a800_d3a100e592ab00d3a200e5938200_d3a300e592a400d3a400e592be00,
  0xd3a500e592bc00d3a600e5939800_d3a700e593a500d3a800e593a600_d3a900e5948f00d3aa00e5949400,
  0xd3ab00e593bd00d3ac00e593ae00_d3ad00e593ad00d3ae00e593ba00_d3af00e593a200d3b000e594b900,
  0xd3b100e5958000d3b200e595a300_d3b300e5958c00d3b400e594ae00_d3b500e5959c00d3b600e5958500,
  0xd3b700e5959600d3b800e5959700_d3b900e594b800d3ba00e594b300_d3bb00e5959d00d3bc00e5969900,
  0xd3bd00e5968000d3be00e592af00_d3bf00e5968a00d3c000e5969f00_d3c100e595bb00d3c200e595be00,
  0xd3c300e5969800d3c400e5969e00_d3c500e596ae00d3c600e595bc00_d3c700e5968300d3c800e596a900,
  0xd3c900e5968700d3ca00e596a800_d3cb00e5979a00d3cc00e5978500_d3cd00e5979f00d3ce00e5978400,
  0xd3cf00e5979c00d3d000e597a400_d3d100e5979400d3d200e5989400_d3d300e597b700d3d400e5989600,
  0xd3d500e597be00d3d600e597bd00_d3d700e5989b00d3d800e597b900_d3d900e5998e00d3da00e5999000,
  0xd3db00e7879f00d3dc00e598b400_d3dd00e598b600d3de00e598b200_d3df00e598b800d3e000e599ab00,
  0xd3e100e599a400d3e200e598af00_d3e300e599ac00d3e400e599aa00_d3e500e59a8600d3e600e59a8000,
  0xd3e700e59a8a00d3e800e59aa000_d3e900e59a9400d3ea00e59a8f00_d3eb00e59aa500d3ec00e59aae00,
  0xd3ed00e59ab600d3ee00e59ab400_d3ef00e59b8200d3f000e59abc00_d3f100e59b8100d3f200e59b8300,
  0xd3f300e59b8000d3f400e59b8800_d3f500e59b8e00d3f600e59b9100_d3f700e59b9300d3f800e59b9700,
  0xd3f900e59bae00d3fa00e59bb900_d3fb00e59c8000d3fc00e59bbf00_d3fd00e59c8400d3fe00e59c8900,
  0xd4a100e59c8800d4a200e59c8b00_d4a300e59c8d00d4a400e59c9300_d4a500e59c9800d4a600e59c9600,
  0xd4a700e5978700d4a800e59c9c00_d4a900e59ca600d4aa00e59cb700_d4ab00e59cb800d4ac00e59d8e00,
  0xd4ad00e59cbb00d4ae00e59d8000_d4af00e59d8f00d4b000e59da900_d4b100e59f8000d4b200e59e8800,
  0xd4b300e59da100d4b400e59dbf00_d4b500e59e8900d4b600e59e9300_d4b700e59ea000d4b800e59eb300,
  0xd4b900e59ea400d4ba00e59eaa00_d4bb00e59eb000d4bc00e59f8300_d4bd00e59f8600d4be00e59f9400,
  0xd4bf00e59f9200d4c000e59f9300_d4c100e5a08a00d4c200e59f9600_d4c300e59fa300d4c400e5a08b00,
  0xd4c500e5a09900d4c600e5a09d00_d4c700e5a1b200d4c800e5a0a100_d4c900e5a1a200d4ca00e5a18b00,
  0xd4cb00e5a1b000d4cc00e6af8000_d4cd00e5a19200d4ce00e5a0bd00_d4cf00e5a1b900d4d000e5a28500,
  0xd4d100e5a2b900d4d200e5a29f00_d4d300e5a2ab00d4d400e5a2ba00_d4d500e5a39e00d4d600e5a2bb00,
  0xd4d700e5a2b800d4d800e5a2ae00_d4d900e5a38500d4da00e5a39300_d4db00e5a39100d4dc00e5a39700,
  0xd4dd00e5a39900d4de00e5a39800_d4df00e5a3a500d4e000e5a39c00_d4e100e5a3a400d4e200e5a39f00,
  0xd4e300e5a3af00d4e400e5a3ba00_d4e500e5a3b900d4e600e5a3bb00_d4e700e5a3bc00d4e800e5a3bd00,
  0xd4e900e5a48200d4ea00e5a48a00_d4eb00e5a49000d4ec00e5a49b00_d4ed00e6a2a600d4ee00e5a4a500,
  0xd4ef00e5a4ac00d4f000e5a4ad00_d4f100e5a4b200d4f200e5a4b800_d4f300e5a4be00d4f400e7ab9200,
  0xd4f500e5a59500d4f600e5a59000_d4f700e5a58e00d4f800e5a59a00_d4f900e5a59800d4fa00e5a5a200,
  0xd4fb00e5a5a000d4fc00e5a5a700_d4fd00e5a5ac00d4fe00e5a5a900_d5a100e5a5b800d5a200e5a68100,
  0xd5a300e5a69d00d5a400e4bd9e00_d5a500e4beab00d5a600e5a6a300_d5a700e5a6b200d5a800e5a78600,
  0xd5a900e5a7a800d5aa00e5a79c00_d5ab00e5a68d00d5ac00e5a79900_d5ad00e5a79a00d5ae00e5a8a500,
  0xd5af00e5a89f00d5b000e5a89100_d5b100e5a89c00d5b200e5a88900_d5b300e5a89a00d5b400e5a98000,
  0xd5b500e5a9ac00d5b600e5a98900_d5b700e5a8b500d5b800e5a8b600_d5b900e5a9a200d5ba00e5a9aa00,
  0xd5bb00e5aa9a00d5bc00e5aabc00_d5bd00e5aabe00d5be00e5ab8b00_d5bf00e5ab8200d5c000e5aabd00,
  0xd5c100e5aba300d5c200e5ab9700_d5c300e5aba600d5c400e5aba900_d5c500e5ab9600d5c600e5abba00,
  0xd5c700e5abbb00d5c800e5ac8c00_d5c900e5ac8b00d5ca00e5ac9600_d5cb00e5acb200d5cc00e5ab9000,
  0xd5cd00e5acaa00d5ce00e5acb600_d5cf00e5acbe00d5d000e5ad8300_d5d100e5ad8500d5d200e5ad8000,
  0xd5d300e5ad9100d5d400e5ad9500_d5d500e5ad9a00d5d600e5ad9b00_d5d700e5ada500d5d800e5ada900,
  0xd5d900e5adb000d5da00e5adb300_d5db00e5adb500d5dc00e5adb800_d5dd00e6968800d5de00e5adba00,
  0xd5df00e5ae8000d5e000e5ae8300_d5e100e5aea600d5e200e5aeb800_d5e300e5af8300d5e400e5af8700,
  0xd5e500e5af8900d5e600e5af9400_d5e700e5af9000d5e800e5afa400_d5e900e5afa600d5ea00e5afa200,
  0xd5eb00e5af9e00d5ec00e5afa500_d5ed00e5afab00d5ee00e5afb000_d5ef00e5afb600d5f000e5afb300,
  0xd5f100e5b08500d5f200e5b08700_d5f300e5b08800d5f400e5b08d00_d5f500e5b09300d5f600e5b0a000,
  0xd5f700e5b0a200d5f800e5b0a800_d5f900e5b0b800d5fa00e5b0b900_d5fb00e5b18100d5fc00e5b18600,
  0xd5fd00e5b18e00d5fe00e5b19300_d6a100e5b19000d6a200e5b18f00_d6a300e5adb100d6a400e5b1ac00,
  0xd6a500e5b1ae00d6a600e4b9a200_d6a700e5b1b600d6a800e5b1b900_d6a900e5b28c00d6aa00e5b29100,
  0xd6ab00e5b29400d6ac00e5a69b00_d6ad00e5b2ab00d6ae00e5b2bb00_d6af00e5b2b600d6b000e5b2bc00,
  0xd6b100e5b2b700d6b200e5b38500_d6b300e5b2be00d6b400e5b38700_d6b500e5b39900d6b600e5b3a900,
  0xd6b700e5b3bd00d6b800e5b3ba00_d6b900e5b3ad00d6ba00e5b68c00_d6bb00e5b3aa00d6bc00e5b48b00,
  0xd6bd00e5b49500d6be00e5b49700_d6bf00e5b59c00d6c000e5b49f00_d6c100e5b49b00d6c200e5b49100,
  0xd6c300e5b49400d6c400e5b4a200_d6c500e5b49a00d6c600e5b49900_d6c700e5b49800d6c800e5b58c00,
  0xd6c900e5b59200d6ca00e5b58e00_d6cb00e5b58b00d6cc00e5b5ac00_d6cd00e5b5b300d6ce00e5b5b600,
  0xd6cf00e5b68700d6d000e5b68400_d6d100e5b68200d6d200e5b6a200_d6d300e5b69d00d6d400e5b6ac00,
  0xd6d500e5b6ae00d6d600e5b6bd00_d6d700e5b69000d6d800e5b6b700_d6d900e5b6bc00d6da00e5b78900,
  0xd6db00e5b78d00d6dc00e5b79300_d6dd00e5b79200d6de00e5b79600_d6df00e5b79b00d6e000e5b7ab00,
  0xd6e100e5b7b200d6e200e5b7b500_d6e300e5b88b00d6e400e5b89a00_d6e500e5b89900d6e600e5b89100,
  0xd6e700e5b89b00d6e800e5b8b600_d6e900e5b8b700d6ea00e5b98400_d6eb00e5b98300d6ec00e5b98000,
  0xd6ed00e5b98e00d6ee00e5b99700_d6ef00e5b99400d6f000e5b99f00_d6f100e5b9a200d6f200e5b9a400,
  0xd6f300e5b98700d6f400e5b9b500_d6f500e5b9b600d6f600e5b9ba00_d6f700e9babc00d6f800e5b9bf00,
  0xd6f900e5baa000d6fa00e5bb8100_d6fb00e5bb8200d6fc00e5bb8800_d6fd00e5bb9000d6fe00e5bb8f00,
  0xd7a100e5bb9600d7a200e5bba300_d7a300e5bb9d00d7a400e5bb9a00_d7a500e5bb9b00d7a600e5bba200,
  0xd7a700e5bba100d7a800e5bba800_d7a900e5bba900d7aa00e5bbac00_d7ab00e5bbb100d7ac00e5bbb300,
  0xd7ad00e5bbb000d7ae00e5bbb400_d7af00e5bbb800d7b000e5bbbe00_d7b100e5bc8300d7b200e5bc8900,
  0xd7b300e5bd9d00d7b400e5bd9c00_d7b500e5bc8b00d7b600e5bc9100_d7b700e5bc9600d7b800e5bca900,
  0xd7b900e5bcad00d7ba00e5bcb800_d7bb00e5bd8100d7bc00e5bd8800_d7bd00e5bd8c00d7be00e5bd8e00,
  0xd7bf00e5bcaf00d7c000e5bd9100_d7c100e5bd9600d7c200e5bd9700_d7c300e5bd9900d7c400e5bda100,
  0xd7c500e5bdad00d7c600e5bdb300_d7c700e5bdb700d7c800e5be8300_d7c900e5be8200d7ca00e5bdbf00,
  0xd7cb00e5be8a00d7cc00e5be8800_d7cd00e5be9100d7ce00e5be8700_d7cf00e5be9e00d7d000e5be9900,
  0xd7d100e5be9800d7d200e5bea000_d7d300e5bea800d7d400e5bead00_d7d500e5bebc00d7d600e5bf9600,
  0xd7d700e5bfbb00d7d800e5bfa400_d7d900e5bfb800d7da00e5bfb100_d7db00e5bf9d00d7dc00e682b300,
  0xd7dd00e5bfbf00d7de00e680a100_d7df00e681a000d7e000e6809900_d7e100e6809000d7e200e680a900,
  0xd7e300e6808e00d7e400e680b100_d7e500e6809b00d7e600e6809500_d7e700e680ab00d7e800e680a600,
  0xd7e900e6808f00d7ea00e680ba00_d7eb00e6819a00d7ec00e6818100_d7ed00e681aa00d7ee00e681b700,
  0xd7ef00e6819f00d7f000e6818a00_d7f100e6818600d7f200e6818d00_d7f300e681a300d7f400e6818300,
  0xd7f500e681a400d7f600e6818200_d7f700e681ac00d7f800e681ab00_d7f900e6819900d7fa00e6828100,
  0xd7fb00e6828d00d7fc00e683a700_d7fd00e6828300d7fe00e6829a00_d8a100e6828400d8a200e6829b00,
  0xd8a300e6829600d8a400e6829700_d8a500e6829200d8a600e682a700_d8a700e6828b00d8a800e683a100,
  0xd8a900e682b800d8aa00e683a000_d8ab00e6839300d8ac00e682b400_d8ad00e5bfb000d8ae00e682bd00,
  0xd8af00e6838600d8b000e682b500_d8b100e6839800d8b200e6858d00_d8b300e6849500d8b400e6848600,
  0xd8b500e683b600d8b600e683b700_d8b700e6848000d8b800e683b400_d8b900e683ba00d8ba00e6848300,
  0xd8bb00e684a100d8bc00e683bb00_d8bd00e683b100d8be00e6848d00_d8bf00e6848e00d8c000e6858700,
  0xd8c100e684be00d8c200e684a800_d8c300e684a700d8c400e6858a00_d8c500e684bf00d8c600e684bc00,
  0xd8c700e684ac00d8c800e684b400_d8c900e684bd00d8ca00e6858200_d8cb00e6858400d8cc00e685b300,
  0xd8cd00e685b700d8ce00e6859800_d8cf00e6859900d8d000e6859a00_d8d100e685ab00d8d200e685b400,
  0xd8d300e685af00d8d400e685a500_d8d500e685b100d8d600e6859f00_d8d700e6859d00d8d800e6859300,
  0xd8d900e685b500d8da00e6869900_d8db00e6869600d8dc00e6868700_d8dd00e686ac00d8de00e6869400,
  0xd8df00e6869a00d8e000e6868a00_d8e100e6869100d8e200e686ab00_d8e300e686ae00d8e400e6878c00,
  0xd8e500e6878a00d8e600e6878900_d8e700e687b700d8e800e6878800_d8e900e6878300d8ea00e6878600,
  0xd8eb00e686ba00d8ec00e6878b00_d8ed00e7bdb900d8ee00e6878d00_d8ef00e687a600d8f000e687a300,
  0xd8f100e687b600d8f200e687ba00_d8f300e687b400d8f400e687bf00_d8f500e687bd00d8f600e687bc00,
  0xd8f700e687be00d8f800e6888000_d8f900e6888800d8fa00e6888900_d8fb00e6888d00d8fc00e6888c00,
  0xd8fd00e6889400d8fe00e6889b00_d9a100e6889e00d9a200e688a100_d9a300e688aa00d9a400e688ae00,
  0xd9a500e688b000d9a600e688b200_d9a700e688b300d9a800e6898100_d9a900e6898e00d9aa00e6899e00,
  0xd9ab00e689a300d9ac00e6899b00_d9ad00e689a000d9ae00e689a800_d9af00e689bc00d9b000e68a8200,
  0xd9b100e68a8900d9b200e689be00_d9b300e68a9200d9b400e68a9300_d9b500e68a9600d9b600e68b9400,
  0xd9b700e68a8300d9b800e68a9400_d9b900e68b9700d9ba00e68b9100_d9bb00e68abb00d9bc00e68b8f00,
  0xd9bd00e68bbf00d9be00e68b8600_d9bf00e6939400d9c000e68b8800_d9c100e68b9c00d9c200e68b8c00,
  0xd9c300e68b8a00d9c400e68b8200_d9c500e68b8700d9c600e68a9b00_d9c700e68b8900d9c800e68c8c00,
  0xd9c900e68bae00d9ca00e68bb100_d9cb00e68ca700d9cc00e68c8200_d9cd00e68c8800d9ce00e68baf00,
  0xd9cf00e68bb500d9d000e68d9000_d9d100e68cbe00d9d200e68d8d00_d9d300e6909c00d9d400e68d8f00,
  0xd9d500e68e9600d9d600e68e8e00_d9d700e68e8000d9d800e68eab00_d9d900e68db600d9da00e68ea300,
  0xd9db00e68e8f00d9dc00e68e8900_d9dd00e68e9f00d9de00e68eb500_d9df00e68dab00d9e000e68da900,
  0xd9e100e68ebe00d9e200e68fa900_d9e300e68f8000d9e400e68f8600_d9e500e68fa300d9e600e68f8900,
  0xd9e700e68f9200d9e800e68fb600_d9e900e68f8400d9ea00e6909600_d9eb00e690b400d9ec00e6908600,
  0xd9ed00e6909300d9ee00e690a600_d9ef00e690b600d9f000e6949d00_d9f100e6909700d9f200e690a800,
  0xd9f300e6908f00d9f400e691a700_d9f500e691af00d9f600e691b600_d9f700e6918e00d9f800e694aa00,
  0xd9f900e6929500d9fa00e6929300_d9fb00e692a500d9fc00e692a900_d9fd00e6928800d9fe00e692bc00,
  0xdaa100e6939a00daa200e6939200_daa300e6938500daa400e6938700_daa500e692bb00daa600e6939800,
  0xdaa700e6938200daa800e693b100_daa900e693a700daaa00e8888900_daab00e693a000daac00e693a100,
  0xdaad00e68aac00daae00e693a300_daaf00e693af00dab000e694ac00_dab100e693b600dab200e693b400,
  0xdab300e693b200dab400e693ba00_dab500e6948000dab600e693bd00_dab700e6949800dab800e6949c00,
  0xdab900e6948500daba00e694a400_dabb00e694a300dabc00e694ab00_dabd00e694b400dabe00e694b500,
  0xdabf00e694b700dac000e694b600_dac100e694b800dac200e7958b00_dac300e6958800dac400e6959600,
  0xdac500e6959500dac600e6958d00_dac700e6959800dac800e6959e00_dac900e6959d00daca00e695b200,
  0xdacb00e695b800dacc00e6968200_dacd00e6968300dace00e8ae8a00_dacf00e6969b00dad000e6969f00,
  0xdad100e696ab00dad200e696b700_dad300e6978300dad400e6978600_dad500e6978100dad600e6978400,
  0xdad700e6978c00dad800e6979200_dad900e6979b00dada00e6979900_dadb00e697a000dadc00e697a100,
  0xdadd00e697b100dade00e69db200_dadf00e6988a00dae000e6988300_dae100e697bb00dae200e69db300,
  0xdae300e698b500dae400e698b600_dae500e698b400dae600e6989c00_dae700e6998f00dae800e6998400,
  0xdae900e6998900daea00e6998100_daeb00e6999e00daec00e6999d00_daed00e699a400daee00e699a700,
  0xdaef00e699a800daf000e6999f00_daf100e699a200daf200e699b000_daf300e69a8300daf400e69a8800,
  0xdaf500e69a8e00daf600e69a8900_daf700e69a8400daf800e69a9800_daf900e69a9d00dafa00e69b8100,
  0xdafb00e69ab900dafc00e69b8900_dafd00e69abe00dafe00e69abc00_dba100e69b8400dba200e69ab800,
  0xdba300e69b9600dba400e69b9a00_dba500e69ba000dba600e698bf00_dba700e69ba600dba800e69ba900,
  0xdba900e69bb000dbaa00e69bb500_dbab00e69bb700dbac00e69c8f00_dbad00e69c9600dbae00e69c9e00,
  0xdbaf00e69ca600dbb000e69ca700_dbb100e99cb800dbb200e69cae00_dbb300e69cbf00dbb400e69cb600,
  0xdbb500e69d8100dbb600e69cb800_dbb700e69cb700dbb800e69d8600_dbb900e69d9e00dbba00e69da000,
  0xdbbb00e69d9900dbbc00e69da300_dbbd00e69da400dbbe00e69e8900_dbbf00e69db000dbc000e69ea900,
  0xdbc100e69dbc00dbc200e69daa00_dbc300e69e8c00dbc400e69e8b00_dbc500e69ea600dbc600e69ea100,
  0xdbc700e69e8500dbc800e69eb700_dbc900e69faf00dbca00e69eb400_dbcb00e69fac00dbcc00e69eb300,
  0xdbcd00e69fa900dbce00e69eb800_dbcf00e69fa400dbd000e69f9e00_dbd100e69f9d00dbd200e69fa200,
  0xdbd300e69fae00dbd400e69eb900_dbd500e69f8e00dbd600e69f8600_dbd700e69fa700dbd800e6aa9c00,
  0xdbd900e6a09e00dbda00e6a18600_dbdb00e6a0a900dbdc00e6a18000_dbdd00e6a18d00dbde00e6a0b200,
  0xdbdf00e6a18e00dbe000e6a2b300_dbe100e6a0ab00dbe200e6a19900_dbe300e6a1a300dbe400e6a1b700,
  0xdbe500e6a1bf00dbe600e6a29f00_dbe700e6a28f00dbe800e6a2ad00_dbe900e6a29400dbea00e6a29d00,
  0xdbeb00e6a29b00dbec00e6a28300_dbed00e6aaae00dbee00e6a2b900_dbef00e6a1b400dbf000e6a2b500,
  0xdbf100e6a2a000dbf200e6a2ba00_dbf300e6a48f00dbf400e6a28d00_dbf500e6a1be00dbf600e6a48100,
  0xdbf700e6a38a00dbf800e6a48800_dbf900e6a39800dbfa00e6a4a200_dbfb00e6a4a600dbfc00e6a3a100,
  0xdbfd00e6a48c00dbfe00e6a38d00_dca100e6a39400dca200e6a3a700_dca300e6a39500dca400e6a4b600,
  0xdca500e6a49200dca600e6a48400_dca700e6a39700dca800e6a3a300_dca900e6a4a500dcaa00e6a3b900,
  0xdcab00e6a3a000dcac00e6a3af00_dcad00e6a4a800dcae00e6a4aa00_dcaf00e6a49a00dcb000e6a4a300,
  0xdcb100e6a4a100dcb200e6a38600_dcb300e6a5b900dcb400e6a5b700_dcb500e6a59c00dcb600e6a5b800,
  0xdcb700e6a5ab00dcb800e6a59400_dcb900e6a5be00dcba00e6a5ae00_dcbb00e6a4b900dcbc00e6a5b400,
  0xdcbd00e6a4bd00dcbe00e6a59900_dcbf00e6a4b000dcc000e6a5a100_dcc100e6a59e00dcc200e6a59d00,
  0xdcc300e6a68100dcc400e6a5aa00_dcc500e6a6b200dcc600e6a6ae00_dcc700e6a79000dcc800e6a6bf00,
  0xdcc900e6a78100dcca00e6a79300_dccb00e6a6be00dccc00e6a78e00_dccd00e5afa800dcce00e6a78a00,
  0xdccf00e6a79d00dcd000e6a6bb00_dcd100e6a78300dcd200e6a6a700_dcd300e6a8ae00dcd400e6a69100,
  0xdcd500e6a6a000dcd600e6a69c00_dcd700e6a69500dcd800e6a6b400_dcd900e6a79e00dcda00e6a7a800,
  0xdcdb00e6a88200dcdc00e6a89b00_dcdd00e6a7bf00dcde00e6ac8a00_dcdf00e6a7b900dce000e6a7b200,
  0xdce100e6a7a700dce200e6a88500_dce300e6a6b100dce400e6a89e00_dce500e6a7ad00dce600e6a89400,
  0xdce700e6a7ab00dce800e6a88a00_dce900e6a89200dcea00e6ab8100_dceb00e6a8a300dcec00e6a89300,
  0xdced00e6a98400dcee00e6a88c00_dcef00e6a9b200dcf000e6a8b600_dcf100e6a9b800dcf200e6a98700,
  0xdcf300e6a9a200dcf400e6a99900_dcf500e6a9a600dcf600e6a98800_dcf700e6a8b800dcf800e6a8a200,
  0xdcf900e6aa9000dcfa00e6aa8d00_dcfb00e6aaa000dcfc00e6aa8400_dcfd00e6aaa200dcfe00e6aaa300,
  0xdda100e6aa9700dda200e8989700_dda300e6aabb00dda400e6ab8300_dda500e6ab8200dda600e6aab800,
  0xdda700e6aab300dda800e6aaac00_dda900e6ab9e00ddaa00e6ab9100_ddab00e6ab9f00ddac00e6aaaa00,
  0xddad00e6ab9a00ddae00e6abaa00_ddaf00e6abbb00ddb000e6ac8500_ddb100e8989600ddb200e6abba00,
  0xddb300e6ac9200ddb400e6ac9600_ddb500e9acb100ddb600e6ac9f00_ddb700e6acb800ddb800e6acb700,
  0xddb900e79b9c00ddba00e6acb900_ddbb00e9a3ae00ddbc00e6ad8700_ddbd00e6ad8300ddbe00e6ad8900,
  0xddbf00e6ad9000ddc000e6ad9900_ddc100e6ad9400ddc200e6ad9b00_ddc300e6ad9f00ddc400e6ada100,
  0xddc500e6adb800ddc600e6adb900_ddc700e6adbf00ddc800e6ae8000_ddc900e6ae8400ddca00e6ae8300,
  0xddcb00e6ae8d00ddcc00e6ae9800_ddcd00e6ae9500ddce00e6ae9e00_ddcf00e6aea400ddd000e6aeaa00,
  0xddd100e6aeab00ddd200e6aeaf00_ddd300e6aeb200ddd400e6aeb100_ddd500e6aeb300ddd600e6aeb700,
  0xddd700e6aebc00ddd800e6af8600_ddd900e6af8b00ddda00e6af9300_dddb00e6af9f00dddc00e6afac00,
  0xdddd00e6afab00ddde00e6afb300_dddf00e6afaf00dde000e9babe00_dde100e6b08800dde200e6b09300,
  0xdde300e6b09400dde400e6b09b00_dde500e6b0a400dde600e6b0a300_dde700e6b19e00dde800e6b19500,
  0xdde900e6b1a200ddea00e6b1aa00_ddeb00e6b28200ddec00e6b28d00_dded00e6b29a00ddee00e6b28100,
  0xddef00e6b29b00ddf000e6b1be00_ddf100e6b1a800ddf200e6b1b300_ddf300e6b29200ddf400e6b29000,
  0xddf500e6b38400ddf600e6b3b100_ddf700e6b39300ddf800e6b2bd00_ddf900e6b39700ddfa00e6b38500,
  0xddfb00e6b39d00ddfc00e6b2ae00_ddfd00e6b2b100ddfe00e6b2be00_dea100e6b2ba00dea200e6b39b00,
  0xdea300e6b3af00dea400e6b39900_dea500e6b3aa00dea600e6b49f00_dea700e8a18d00dea800e6b4b600,
  0xdea900e6b4ab00deaa00e6b4bd00_deab00e6b4b800deac00e6b49900_dead00e6b4b500deae00e6b4b300,
  0xdeaf00e6b49200deb000e6b48c00_deb100e6b5a300deb200e6b69300_deb300e6b5a400deb400e6b59a00,
  0xdeb500e6b5b900deb600e6b59900_deb700e6b68e00deb800e6b69500_deb900e6bfa400deba00e6b68500,
  0xdebb00e6b7b900debc00e6b89500_debd00e6b88a00debe00e6b6b500_debf00e6b78700dec000e6b7a600,
  0xdec100e6b6b800dec200e6b78600_dec300e6b7ac00dec400e6b79e00_dec500e6b78c00dec600e6b7a800,
  0xdec700e6b79200dec800e6b78500_dec900e6b7ba00deca00e6b79900_decb00e6b7a400decc00e6b79500,
  0xdecd00e6b7aa00dece00e6b7ae00_decf00e6b8ad00ded000e6b9ae00_ded100e6b8ae00ded200e6b89900,
  0xded300e6b9b200ded400e6b99f00_ded500e6b8be00ded600e6b8a300_ded700e6b9ab00ded800e6b8ab00,
  0xded900e6b9b600deda00e6b98d00_dedb00e6b89f00dedc00e6b98300_dedd00e6b8ba00dede00e6b98e00,
  0xdedf00e6b8a400dee000e6bbbf00_dee100e6b89d00dee200e6b8b800_dee300e6ba8200dee400e6baaa00,
  0xdee500e6ba9800dee600e6bb8900_dee700e6bab700dee800e6bb9300_dee900e6babd00deea00e6baaf00,
  0xdeeb00e6bb8400deec00e6bab200_deed00e6bb9400deee00e6bb9500_deef00e6ba8f00def000e6baa500,
  0xdef100e6bb8200def200e6ba9f00_def300e6bd8100def400e6bc9100_def500e7818c00def600e6bbac00,
  0xdef700e6bbb800def800e6bbbe00_def900e6bcbf00defa00e6bbb200_defb00e6bcb100defc00e6bbaf00,
  0xdefd00e6bcb200defe00e6bb8c00_dfa100e6bcbe00dfa200e6bc9300_dfa300e6bbb700dfa400e6be8600,
  0xdfa500e6bdba00dfa600e6bdb800_dfa700e6be8100dfa800e6be8000_dfa900e6bdaf00dfaa00e6bd9b00,
  0xdfab00e6bfb300dfac00e6bdad00_dfad00e6be8200dfae00e6bdbc00_dfaf00e6bd9800dfb000e6be8e00,
  0xdfb100e6be9100dfb200e6bf8200_dfb300e6bda600dfb400e6beb300_dfb500e6bea300dfb600e6bea100,
  0xdfb700e6bea400dfb800e6beb900_dfb900e6bf8600dfba00e6beaa00_dfbb00e6bf9f00dfbc00e6bf9500,
  0xdfbd00e6bfac00dfbe00e6bf9400_dfbf00e6bf9800dfc000e6bfb100_dfc100e6bfae00dfc200e6bf9b00,
  0xdfc300e7808900dfc400e7808b00_dfc500e6bfba00dfc600e7809100_dfc700e7808100dfc800e7808f00,
  0xdfc900e6bfbe00dfca00e7809b00_dfcb00e7809a00dfcc00e6bdb400_dfcd00e7809d00dfce00e7809800,
  0xdfcf00e7809f00dfd000e780b000_dfd100e780be00dfd200e780b200_dfd300e7819100dfd400e781a300,
  0xdfd500e7829900dfd600e7829200_dfd700e782af00dfd800e783b100_dfd900e782ac00dfda00e782b800,
  0xdfdb00e782b300dfdc00e782ae00_dfdd00e7839f00dfde00e7838b00_dfdf00e7839d00dfe000e7839900,
  0xdfe100e7848900dfe200e783bd00_dfe300e7849c00dfe400e7849900_dfe500e785a500dfe600e7859500,
  0xdfe700e7868800dfe800e785a600_dfe900e785a200dfea00e7858c00_dfeb00e7859600dfec00e785ac00,
  0xdfed00e7868f00dfee00e787bb00_dfef00e7868400dff000e7869500_dff100e786a800dff200e786ac00,
  0xdff300e7879700dff400e786b900_dff500e786be00dff600e7879200_dff700e7878900dff800e7879400,
  0xdff900e7878e00dffa00e787a000_dffb00e787ac00dffc00e787a700_dffd00e787b500dffe00e787bc00,
  0xe0a100e787b900e0a200e787bf00_e0a300e7888d00e0a400e7889000_e0a500e7889b00e0a600e788a800,
  0xe0a700e788ad00e0a800e788ac00_e0a900e788b000e0aa00e788b200_e0ab00e788bb00e0ac00e788bc00,
  0xe0ad00e788bf00e0ae00e7898000_e0af00e7898600e0b000e7898b00_e0b100e7899800e0b200e789b400,
  0xe0b300e789be00e0b400e78a8200_e0b500e78a8100e0b600e78a8700_e0b700e78a9200e0b800e78a9600,
  0xe0b900e78aa200e0ba00e78aa700_e0bb00e78ab900e0bc00e78ab200_e0bd00e78b8300e0be00e78b8600,
  0xe0bf00e78b8400e0c000e78b8e00_e0c100e78b9200e0c200e78ba200_e0c300e78ba000e0c400e78ba100,
  0xe0c500e78bb900e0c600e78bb700_e0c700e5808f00e0c800e78c9700_e0c900e78c8a00e0ca00e78c9c00,
  0xe0cb00e78c9600e0cc00e78c9d00_e0cd00e78cb400e0ce00e78caf00_e0cf00e78ca900e0d000e78ca500,
  0xe0d100e78cbe00e0d200e78d8e00_e0d300e78d8f00e0d400e9bb9800_e0d500e78d9700e0d600e78daa00,
  0xe0d700e78da800e0d800e78db000_e0d900e78db800e0da00e78db500_e0db00e78dbb00e0dc00e78dba00,
  0xe0dd00e78f8800e0de00e78eb300_e0df00e78f8e00e0e000e78ebb00_e0e100e78f8000e0e200e78fa500,
  0xe0e300e78fae00e0e400e78f9e00_e0e500e792a200e0e600e7908500_e0e700e791af00e0e800e790a500,
  0xe0e900e78fb800e0ea00e790b200_e0eb00e790ba00e0ec00e7919500_e0ed00e790bf00e0ee00e7919f00,
  0xe0ef00e7919900e0f000e7918100_e0f100e7919c00e0f200e791a900_e0f300e791b000e0f400e791a300,
  0xe0f500e791aa00e0f600e791b600_e0f700e791be00e0f800e7928b00_e0f900e7929e00e0fa00e792a700,
  0xe0fb00e7938a00e0fc00e7938f00_e0fd00e7939400e0fe00e78fb100_e1a100e793a000e1a200e793a300,
  0xe1a300e793a700e1a400e793a900_e1a500e793ae00e1a600e793b200_e1a700e793b000e1a800e793b100,
  0xe1a900e793b800e1aa00e793b700_e1ab00e7948400e1ac00e7948300_e1ad00e7948500e1ae00e7948c00,
  0xe1af00e7948e00e1b000e7948d00_e1b100e7949500e1b200e7949300_e1b300e7949e00e1b400e794a600,
  0xe1b500e794ac00e1b600e794bc00_e1b700e7958400e1b800e7958d00_e1b900e7958a00e1ba00e7958900,
  0xe1bb00e7959b00e1bc00e7958600_e1bd00e7959a00e1be00e795a900_e1bf00e795a400e1c000e795a700,
  0xe1c100e795ab00e1c200e795ad00_e1c300e795b800e1c400e795b600_e1c500e7968600e1c600e7968700,
  0xe1c700e795b400e1c800e7968a00_e1c900e7968900e1ca00e7968200_e1cb00e7969400e1cc00e7969a00,
  0xe1cd00e7969d00e1ce00e796a500_e1cf00e796a300e1d000e7978200_e1d100e796b300e1d200e7978300,
  0xe1d300e796b500e1d400e796bd00_e1d500e796b800e1d600e796bc00_e1d700e796b100e1d800e7978d00,
  0xe1d900e7978a00e1da00e7979200_e1db00e7979900e1dc00e797a300_e1dd00e7979e00e1de00e797be00,
  0xe1df00e797bf00e1e000e797bc00_e1e100e7988100e1e200e797b000_e1e300e797ba00e1e400e797b200,
  0xe1e500e797b300e1e600e7988b00_e1e700e7988d00e1e800e7988900_e1e900e7989f00e1ea00e798a700,
  0xe1eb00e798a000e1ec00e798a100_e1ed00e798a200e1ee00e798a400_e1ef00e798b400e1f000e798b000,
  0xe1f100e798bb00e1f200e7998700_e1f300e7998800e1f400e7998600_e1f500e7999c00e1f600e7999800,
  0xe1f700e799a100e1f800e799a200_e1f900e799a800e1fa00e799a900_e1fb00e799aa00e1fc00e799a700,
  0xe1fd00e799ac00e1fe00e799b000_e2a100e799b200e2a200e799b600_e2a300e799b800e2a400e799bc00,
  0xe2a500e79a8000e2a600e79a8300_e2a700e79a8800e2a800e79a8b00_e2a900e79a8e00e2aa00e79a9600,
  0xe2ab00e79a9300e2ac00e79a9900_e2ad00e79a9a00e2ae00e79ab000_e2af00e79ab400e2b000e79ab800,
  0xe2b100e79ab900e2b200e79aba00_e2b300e79b8200e2b400e79b8d00_e2b500e79b9600e2b600e79b9200,
  0xe2b700e79b9e00e2b800e79ba100_e2b900e79ba500e2ba00e79ba700_e2bb00e79baa00e2bc00e898af00,
  0xe2bd00e79bbb00e2be00e79c8800_e2bf00e79c8700e2c000e79c8400_e2c100e79ca900e2c200e79ca400,
  0xe2c300e79c9e00e2c400e79ca500_e2c500e79ca600e2c600e79c9b00_e2c700e79cb700e2c800e79cb800,
  0xe2c900e79d8700e2ca00e79d9a00_e2cb00e79da800e2cc00e79dab00_e2cd00e79d9b00e2ce00e79da500,
  0xe2cf00e79dbf00e2d000e79dbe00_e2d100e79db900e2d200e79e8e00_e2d300e79e8b00e2d400e79e9100,
  0xe2d500e79ea000e2d600e79e9e00_e2d700e79eb000e2d800e79eb600_e2d900e79eb900e2da00e79ebf00,
  0xe2db00e79ebc00e2dc00e79ebd00_e2dd00e79ebb00e2de00e79f8700_e2df00e79f8d00e2e000e79f9700,
  0xe2e100e79f9a00e2e200e79f9c00_e2e300e79fa300e2e400e79fae00_e2e500e79fbc00e2e600e7a08c00,
  0xe2e700e7a09200e2e800e7a4a600_e2e900e7a0a000e2ea00e7a4aa00_e2eb00e7a18500e2ec00e7a28e00,
  0xe2ed00e7a1b400e2ee00e7a28600_e2ef00e7a1bc00e2f000e7a29a00_e2f100e7a28c00e2f200e7a2a300,
  0xe2f300e7a2b500e2f400e7a2aa00_e2f500e7a2af00e2f600e7a39100_e2f700e7a38600e2f800e7a38b00,
  0xe2f900e7a39400e2fa00e7a2be00_e2fb00e7a2bc00e2fc00e7a38500_e2fd00e7a38a00e2fe00e7a3ac00,
  0xe3a100e7a3a700e3a200e7a39a00_e3a300e7a3bd00e3a400e7a3b400_e3a500e7a48700e3a600e7a49200,
  0xe3a700e7a49100e3a800e7a49900_e3a900e7a4ac00e3aa00e7a4ab00_e3ab00e7a58000e3ac00e7a5a000,
  0xe3ad00e7a59700e3ae00e7a59f00_e3af00e7a59a00e3b000e7a59500_e3b100e7a59300e3b200e7a5ba00,
  0xe3b300e7a5bf00e3b400e7a68a00_e3b500e7a69d00e3b600e7a6a700_e3b700e9bd8b00e3b800e7a6aa00,
  0xe3b900e7a6ae00e3ba00e7a6b300_e3bb00e7a6b900e3bc00e7a6ba00_e3bd00e7a78900e3be00e7a79500,
  0xe3bf00e7a7a700e3c000e7a7ac00_e3c100e7a7a100e3c200e7a7a300_e3c300e7a88800e3c400e7a88d00,
  0xe3c500e7a89800e3c600e7a89900_e3c700e7a8a000e3c800e7a89f00_e3c900e7a68000e3ca00e7a8b100,
  0xe3cb00e7a8bb00e3cc00e7a8be00_e3cd00e7a8b700e3ce00e7a98300_e3cf00e7a99700e3d000e7a98900,
  0xe3d100e7a9a100e3d200e7a9a200_e3d300e7a9a900e3d400e9be9d00_e3d500e7a9b000e3d600e7a9b900,
  0xe3d700e7a9bd00e3d800e7aa8800_e3d900e7aa9700e3da00e7aa9500_e3db00e7aa9800e3dc00e7aa9600,
  0xe3dd00e7aaa900e3de00e7ab8800_e3df00e7aab000e3e000e7aab600_e3e100e7ab8500e3e200e7ab8400,
  0xe3e300e7aabf00e3e400e9828300_e3e500e7ab8700e3e600e7ab8a00_e3e700e7ab8d00e3e800e7ab8f00,
  0xe3e900e7ab9500e3ea00e7ab9300_e3eb00e7ab9900e3ec00e7ab9a00_e3ed00e7ab9d00e3ee00e7aba100,
  0xe3ef00e7aba200e3f000e7aba600_e3f100e7abad00e3f200e7abb000_e3f300e7ac8200e3f400e7ac8f00,
  0xe3f500e7ac8a00e3f600e7ac8600_e3f700e7acb300e3f800e7ac9800_e3f900e7ac9900e3fa00e7ac9e00,
  0xe3fb00e7acb500e3fc00e7aca800_e3fd00e7acb600e3fe00e7ad9000_e4a100e7adba00e4a200e7ac8400,
  0xe4a300e7ad8d00e4a400e7ac8b00_e4a500e7ad8c00e4a600e7ad8500_e4a700e7adb500e4a800e7ada500,
  0xe4a900e7adb400e4aa00e7ada700_e4ab00e7adb000e4ac00e7adb100_e4ad00e7adac00e4ae00e7adae00,
  0xe4af00e7ae9d00e4b000e7ae9800_e4b100e7ae9f00e4b200e7ae8d00_e4b300e7ae9c00e4b400e7ae9a00,
  0xe4b500e7ae8b00e4b600e7ae9200_e4b700e7ae8f00e4b800e7ad9d00_e4b900e7ae9900e4ba00e7af8b00,
  0xe4bb00e7af8100e4bc00e7af8c00_e4bd00e7af8f00e4be00e7aeb400_e4bf00e7af8600e4c000e7af9d00,
  0xe4c100e7afa900e4c200e7b09100_e4c300e7b09400e4c400e7afa600_e4c500e7afa500e4c600e7b1a000,
  0xe4c700e7b08000e4c800e7b08700_e4c900e7b09300e4ca00e7afb300_e4cb00e7afb700e4cc00e7b09700,
  0xe4cd00e7b08d00e4ce00e7afb600_e4cf00e7b0a300e4d000e7b0a700_e4d100e7b0aa00e4d200e7b09f00,
  0xe4d300e7b0b700e4d400e7b0ab00_e4d500e7b0bd00e4d600e7b18c00_e4d700e7b18300e4d800e7b19400,
  0xe4d900e7b18f00e4da00e7b18000_e4db00e7b19000e4dc00e7b19800_e4dd00e7b19f00e4de00e7b1a400,
  0xe4df00e7b19600e4e000e7b1a500_e4e100e7b1ac00e4e200e7b1b500_e4e300e7b28300e4e400e7b29000,
  0xe4e500e7b2a400e4e600e7b2ad00_e4e700e7b2a200e4e800e7b2ab00_e4e900e7b2a100e4ea00e7b2a800,
  0xe4eb00e7b2b300e4ec00e7b2b200_e4ed00e7b2b100e4ee00e7b2ae00_e4ef00e7b2b900e4f000e7b2bd00,
  0xe4f100e7b38000e4f200e7b38500_e4f300e7b38200e4f400e7b39800_e4f500e7b39200e4f600e7b39c00,
  0xe4f700e7b3a200e4f800e9acbb00_e4f900e7b3af00e4fa00e7b3b200_e4fb00e7b3b400e4fc00e7b3b600,
  0xe4fd00e7b3ba00e4fe00e7b48600_e5a100e7b48200e5a200e7b49c00_e5a300e7b49500e5a400e7b48a00,
  0xe5a500e7b58500e5a600e7b58b00_e5a700e7b4ae00e5a800e7b4b200_e5a900e7b4bf00e5aa00e7b4b500,
  0xe5ab00e7b58600e5ac00e7b5b300_e5ad00e7b59600e5ae00e7b58e00_e5af00e7b5b200e5b000e7b5a800,
  0xe5b100e7b5ae00e5b200e7b58f00_e5b300e7b5a300e5b400e7b69300_e5b500e7b68900e5b600e7b59b00,
  0xe5b700e7b68f00e5b800e7b5bd00_e5b900e7b69b00e5ba00e7b6ba00_e5bb00e7b6ae00e5bc00e7b6a300,
  0xe5bd00e7b6b500e5be00e7b78700_e5bf00e7b6bd00e5c000e7b6ab00_e5c100e7b8bd00e5c200e7b6a200,
  0xe5c300e7b6af00e5c400e7b79c00_e5c500e7b6b800e5c600e7b69f00_e5c700e7b6b000e5c800e7b79800,
  0xe5c900e7b79d00e5ca00e7b7a400_e5cb00e7b79e00e5cc00e7b7bb00_e5cd00e7b7b200e5ce00e7b7a100,
  0xe5cf00e7b88500e5d000e7b88a00_e5d100e7b8a300e5d200e7b8a100_e5d300e7b89200e5d400e7b8b100,
  0xe5d500e7b89f00e5d600e7b88900_e5d700e7b88b00e5d800e7b8a200_e5d900e7b98600e5da00e7b9a600,
  0xe5db00e7b8bb00e5dc00e7b8b500_e5dd00e7b8b900e5de00e7b98300_e5df00e7b8b700e5e000e7b8b200,
  0xe5e100e7b8ba00e5e200e7b9a700_e5e300e7b99d00e5e400e7b99600_e5e500e7b99e00e5e600e7b99900,
  0xe5e700e7b99a00e5e800e7b9b900_e5e900e7b9aa00e5ea00e7b9a900_e5eb00e7b9bc00e5ec00e7b9bb00,
  0xe5ed00e7ba8300e5ee00e7b79500_e5ef00e7b9bd00e5f000e8beae00_e5f100e7b9bf00e5f200e7ba8800,
  0xe5f300e7ba8900e5f400e7ba8c00_e5f500e7ba9200e5f600e7ba9000_e5f700e7ba9300e5f800e7ba9400,
  0xe5f900e7ba9600e5fa00e7ba8e00_e5fb00e7ba9b00e5fc00e7ba9c00_e5fd00e7bcb800e5fe00e7bcba00,
  0xe6a100e7bd8500e6a200e7bd8c00_e6a300e7bd8d00e6a400e7bd8e00_e6a500e7bd9000e6a600e7bd9100,
  0xe6a700e7bd9500e6a800e7bd9400_e6a900e7bd9800e6aa00e7bd9f00_e6ab00e7bda000e6ac00e7bda800,
  0xe6ad00e7bda900e6ae00e7bda700_e6af00e7bdb800e6b000e7be8200_e6b100e7be8600e6b200e7be8300,
  0xe6b300e7be8800e6b400e7be8700_e6b500e7be8c00e6b600e7be9400_e6b700e7be9e00e6b800e7be9d00,
  0xe6b900e7be9a00e6ba00e7bea300_e6bb00e7beaf00e6bc00e7beb200_e6bd00e7beb900e6be00e7beae00,
  0xe6bf00e7beb600e6c000e7beb800_e6c100e8adb100e6c200e7bf8500_e6c300e7bf8600e6c400e7bf8a00,
  0xe6c500e7bf9500e6c600e7bf9400_e6c700e7bfa100e6c800e7bfa600_e6c900e7bfa900e6ca00e7bfb300,
  0xe6cb00e7bfb900e6cc00e9a39c00_e6cd00e8808600e6ce00e8808400_e6cf00e8808b00e6d000e8809200,
  0xe6d100e8809800e6d200e8809900_e6d300e8809c00e6d400e880a100_e6d500e880a800e6d600e880bf00,
  0xe6d700e880bb00e6d800e8818a00_e6d900e8818600e6da00e8819200_e6db00e8819800e6dc00e8819a00,
  0xe6dd00e8819f00e6de00e881a200_e6df00e881a800e6e000e881b300_e6e100e881b200e6e200e881b000,
  0xe6e300e881b600e6e400e881b900_e6e500e881bd00e6e600e881bf00_e6e700e8828400e6e800e8828600,
  0xe6e900e8828500e6ea00e8829b00_e6eb00e8829300e6ec00e8829a00_e6ed00e882ad00e6ee00e5869000,
  0xe6ef00e882ac00e6f000e8839b00_e6f100e883a500e6f200e8839900_e6f300e8839d00e6f400e8838400,
  0xe6f500e8839a00e6f600e8839600_e6f700e8848900e6f800e883af00_e6f900e883b100e6fa00e8849b00,
  0xe6fb00e884a900e6fc00e884a300_e6fd00e884af00e6fe00e8858b00_e7a100e99a8b00e7a200e8858600,
  0xe7a300e884be00e7a400e8859300_e7a500e8859100e7a600e883bc00_e7a700e885b100e7a800e885ae00,
  0xe7a900e885a500e7aa00e885a600_e7ab00e885b400e7ac00e8868300_e7ad00e8868800e7ae00e8868a00,
  0xe7af00e8868000e7b000e8868200_e7b100e886a000e7b200e8869500_e7b300e886a400e7b400e886a300,
  0xe7b500e8859f00e7b600e8869300_e7b700e886a900e7b800e886b000_e7b900e886b500e7ba00e886be00,
  0xe7bb00e886b800e7bc00e886bd00_e7bd00e8878000e7be00e8878200_e7bf00e886ba00e7c000e8878900,
  0xe7c100e8878d00e7c200e8879100_e7c300e8879900e7c400e8879800_e7c500e8878800e7c600e8879a00,
  0xe7c700e8879f00e7c800e887a000_e7c900e887a700e7ca00e887ba00_e7cb00e887bb00e7cc00e887be00,
  0xe7cd00e8888100e7ce00e8888200_e7cf00e8888500e7d000e8888700_e7d100e8888a00e7d200e8888d00,
  0xe7d300e8889000e7d400e8889600_e7d500e888a900e7d600e888ab00_e7d700e888b800e7d800e888b300,
  0xe7d900e8898000e7da00e8899900_e7db00e8899800e7dc00e8899d00_e7dd00e8899a00e7de00e8899f00,
  0xe7df00e889a400e7e000e889a200_e7e100e889a800e7e200e889aa00_e7e300e889ab00e7e400e888ae00,
  0xe7e500e889b100e7e600e889b700_e7e700e889b800e7e800e889be00_e7e900e88a8d00e7ea00e88a9200,
  0xe7eb00e88aab00e7ec00e88a9f00_e7ed00e88abb00e7ee00e88aac00_e7ef00e88ba100e7f000e88ba300,
  0xe7f100e88b9f00e7f200e88b9200_e7f300e88bb400e7f400e88bb300_e7f500e88bba00e7f600e88e9300,
  0xe7f700e88c8300e7f800e88bbb00_e7f900e88bb900e7fa00e88b9e00_e7fb00e88c8600e7fc00e88b9c00,
  0xe7fd00e88c8900e7fe00e88b9900_e8a100e88cb500e8a200e88cb400_e8a300e88c9600e8a400e88cb200,
  0xe8a500e88cb100e8a600e88d8000_e8a700e88cb900e8a800e88d9000_e8a900e88d8500e8aa00e88caf00,
  0xe8ab00e88cab00e8ac00e88c9700_e8ad00e88c9800e8ae00e88e8500_e8af00e88e9a00e8b000e88eaa00,
  0xe8b100e88e9f00e8b200e88ea200_e8b300e88e9600e8b400e88ca300_e8b500e88e8e00e8b600e88e8700,
  0xe8b700e88e8a00e8b800e88dbc00_e8b900e88eb500e8ba00e88db300_e8bb00e88db500e8bc00e88ea000,
  0xe8bd00e88e8900e8be00e88ea800_e8bf00e88fb400e8c000e8909300_e8c100e88fab00e8c200e88f8e00,
  0xe8c300e88fbd00e8c400e8908300_e8c500e88f9800e8c600e8908b00_e8c700e88f8100e8c800e88fb700,
  0xe8c900e8908700e8ca00e88fa000_e8cb00e88fb200e8cc00e8908d00_e8cd00e890a200e8ce00e890a000,
  0xe8cf00e88ebd00e8d000e890b800_e8d100e8948600e8d200e88fbb00_e8d300e891ad00e8d400e890aa00,
  0xe8d500e890bc00e8d600e8959a00_e8d700e8928400e8d800e891b700_e8d900e891ab00e8da00e892ad00,
  0xe8db00e891ae00e8dc00e8928200_e8dd00e891a900e8de00e8918600_e8df00e890ac00e8e000e891af00,
  0xe8e100e891b900e8e200e890b500_e8e300e8938a00e8e400e891a200_e8e500e892b900e8e600e892bf00,
  0xe8e700e8929f00e8e800e8939900_e8e900e8938d00e8ea00e892bb00_e8eb00e8939a00e8ec00e8939000,
  0xe8ed00e8938100e8ee00e8938600_e8ef00e8939600e8f000e892a100_e8f100e894a100e8f200e893bf00,
  0xe8f300e893b400e8f400e8949700_e8f500e8949800e8f600e894ac00_e8f700e8949f00e8f800e8949500,
  0xe8f900e8949400e8fa00e893bc00_e8fb00e8958000e8fc00e895a300_e8fd00e8959800e8fe00e8958800,
  0xe9a100e8958100e9a200e8988200_e9a300e8958b00e9a400e8959500_e9a500e8968000e9a600e896a400,
  0xe9a700e8968800e9a800e8969100_e9a900e8968a00e9aa00e896a800_e9ab00e895ad00e9ac00e8969400,
  0xe9ad00e8969b00e9ae00e897aa00_e9af00e8968700e9b000e8969c00_e9b100e895b700e9b200e895be00,
  0xe9b300e8969000e9b400e8978900_e9b500e896ba00e9b600e8978f00_e9b700e896b900e9b800e8979000,
  0xe9b900e8979500e9ba00e8979d00_e9bb00e897a500e9bc00e8979c00_e9bd00e897b900e9be00e8988a00,
  0xe9bf00e8989300e9c000e8988b00_e9c100e897be00e9c200e897ba00_e9c300e8988600e9c400e898a200,
  0xe9c500e8989a00e9c600e898b000_e9c700e898bf00e9c800e8998d00_e9c900e4b99500e9ca00e8999400,
  0xe9cb00e8999f00e9cc00e899a700_e9cd00e899b100e9ce00e89a9300_e9cf00e89aa300e9d000e89aa900,
  0xe9d100e89aaa00e9d200e89a8b00_e9d300e89a8c00e9d400e89ab600_e9d500e89aaf00e9d600e89b8400,
  0xe9d700e89b8600e9d800e89ab000_e9d900e89b8900e9da00e8a0a300_e9db00e89aab00e9dc00e89b9400,
  0xe9dd00e89b9e00e9de00e89ba900_e9df00e89bac00e9e000e89b9f00_e9e100e89b9b00e9e200e89baf00,
  0xe9e300e89c9200e9e400e89c8600_e9e500e89c8800e9e600e89c8000_e9e700e89c8300e9e800e89bbb00,
  0xe9e900e89c9100e9ea00e89c8900_e9eb00e89c8d00e9ec00e89bb900_e9ed00e89c8a00e9ee00e89cb400,
  0xe9ef00e89cbf00e9f000e89cb700_e9f100e89cbb00e9f200e89ca500_e9f300e89ca900e9f400e89c9a00,
  0xe9f500e89da000e9f600e89d9f00_e9f700e89db800e9f800e89d8c00_e9f900e89d8e00e9fa00e89db400,
  0xe9fb00e89d9700e9fc00e89da800_e9fd00e89dae00e9fe00e89d9900_eaa100e89d9300eaa200e89da300,
  0xeaa300e89daa00eaa400e8a08500_eaa500e89ea200eaa600e89e9f00_eaa700e89e8200eaa800e89eaf00,
  0xeaa900e89f8b00eaaa00e89ebd00_eaab00e89f8000eaac00e89f9000_eaad00e99b9600eaae00e89eab00,
  0xeaaf00e89f8400eab000e89eb300_eab100e89f8700eab200e89f8600_eab300e89ebb00eab400e89faf00,
  0xeab500e89fb200eab600e89fa000_eab700e8a08f00eab800e8a08d00_eab900e89fbe00eaba00e89fb600,
  0xeabb00e89fb700eabc00e8a08e00_eabd00e89f9200eabe00e8a09100_eabf00e8a09600eac000e8a09500,
  0xeac100e8a0a200eac200e8a0a100_eac300e8a0b100eac400e8a0b600_eac500e8a0b900eac600e8a0a700,
  0xeac700e8a0bb00eac800e8a18400_eac900e8a18200eaca00e8a19200_eacb00e8a19900eacc00e8a19e00,
  0xeacd00e8a1a200eace00e8a1ab00_eacf00e8a28100ead000e8a1be00_ead100e8a29e00ead200e8a1b500,
  0xead300e8a1bd00ead400e8a2b500_ead500e8a1b200ead600e8a28200_ead700e8a29700ead800e8a29200,
  0xead900e8a2ae00eada00e8a29900_eadb00e8a2a200eadc00e8a28d00_eadd00e8a2a400eade00e8a2b000,
  0xeadf00e8a2bf00eae000e8a2b100_eae100e8a38300eae200e8a38400_eae300e8a39400eae400e8a39800,
  0xeae500e8a39900eae600e8a39d00_eae700e8a3b900eae800e8a48200_eae900e8a3bc00eaea00e8a3b400,
  0xeaeb00e8a3a800eaec00e8a3b200_eaed00e8a48400eaee00e8a48c00_eaef00e8a48a00eaf000e8a49300,
  0xeaf100e8a58300eaf200e8a49e00_eaf300e8a4a500eaf400e8a4aa00_eaf500e8a4ab00eaf600e8a58100,
  0xeaf700e8a58400eaf800e8a4bb00_eaf900e8a4b600eafa00e8a4b800_eafb00e8a58c00eafc00e8a49d00,
  0xeafd00e8a5a000eafe00e8a59e00_eba100e8a5a600eba200e8a5a400_eba300e8a5ad00eba400e8a5aa00,
  0xeba500e8a5af00eba600e8a5b400_eba700e8a5b700eba800e8a5be00_eba900e8a68300ebaa00e8a68800,
  0xebab00e8a68a00ebac00e8a69300_ebad00e8a69800ebae00e8a6a100_ebaf00e8a6a900ebb000e8a6a600,
  0xebb100e8a6ac00ebb200e8a6af00_ebb300e8a6b200ebb400e8a6ba00_ebb500e8a6bd00ebb600e8a6bf00,
  0xebb700e8a78000ebb800e8a79a00_ebb900e8a79c00ebba00e8a79d00_ebbb00e8a7a700ebbc00e8a7b400,
  0xebbd00e8a7b800ebbe00e8a88300_ebbf00e8a89600ebc000e8a89000_ebc100e8a88c00ebc200e8a89b00,
  0xebc300e8a89d00ebc400e8a8a500_ebc500e8a8b600ebc600e8a98100_ebc700e8a99b00ebc800e8a99200,
  0xebc900e8a98600ebca00e8a98800_ebcb00e8a9bc00ebcc00e8a9ad00_ebcd00e8a9ac00ebce00e8a9a200,
  0xebcf00e8aa8500ebd000e8aa8200_ebd100e8aa8400ebd200e8aaa800_ebd300e8aaa100ebd400e8aa9100,
  0xebd500e8aaa500ebd600e8aaa600_ebd700e8aa9a00ebd800e8aaa300_ebd900e8ab8400ebda00e8ab8d00,
  0xebdb00e8ab8200ebdc00e8ab9a00_ebdd00e8abab00ebde00e8abb300_ebdf00e8aba700ebe000e8aba400,
  0xebe100e8abb100ebe200e8ac9400_ebe300e8aba000ebe400e8aba200_ebe500e8abb700ebe600e8ab9e00,
  0xebe700e8ab9b00ebe800e8ac8c00_ebe900e8ac8700ebea00e8ac9a00_ebeb00e8aba100ebec00e8ac9600,
  0xebed00e8ac9000ebee00e8ac9700_ebef00e8aca000ebf000e8acb300_ebf100e99eab00ebf200e8aca600,
  0xebf300e8acab00ebf400e8acbe00_ebf500e8aca800ebf600e8ad8100_ebf700e8ad8c00ebf800e8ad8f00,
  0xebf900e8ad8e00ebfa00e8ad8900_ebfb00e8ad9600ebfc00e8ad9b00_ebfd00e8ad9a00ebfe00e8adab00,
  0xeca100e8ad9f00eca200e8adac00_eca300e8adaf00eca400e8adb400_eca500e8adbd00eca600e8ae8000,
  0xeca700e8ae8c00eca800e8ae8e00_eca900e8ae9200ecaa00e8ae9300_ecab00e8ae9600ecac00e8ae9900,
  0xecad00e8ae9a00ecae00e8b0ba00_ecaf00e8b18100ecb000e8b0bf00_ecb100e8b18800ecb200e8b18c00,
  0xecb300e8b18e00ecb400e8b19000_ecb500e8b19500ecb600e8b1a200_ecb700e8b1ac00ecb800e8b1b800,
  0xecb900e8b1ba00ecba00e8b28200_ecbb00e8b28900ecbc00e8b28500_ecbd00e8b28a00ecbe00e8b28d00,
  0xecbf00e8b28e00ecc000e8b29400_ecc100e8b1bc00ecc200e8b29800_ecc300e6889d00ecc400e8b2ad00,
  0xecc500e8b2aa00ecc600e8b2bd00_ecc700e8b2b200ecc800e8b2b300_ecc900e8b2ae00ecca00e8b2b600,
  0xeccb00e8b38800eccc00e8b38100_eccd00e8b3a400ecce00e8b3a300_eccf00e8b39a00ecd000e8b3bd00,
  0xecd100e8b3ba00ecd200e8b3bb00_ecd300e8b48400ecd400e8b48500_ecd500e8b48a00ecd600e8b48700,
  0xecd700e8b48f00ecd800e8b48d00_ecd900e8b49000ecda00e9bd8e00_ecdb00e8b49300ecdc00e8b38d00,
  0xecdd00e8b49400ecde00e8b49600_ecdf00e8b5a700ece000e8b5ad00_ece100e8b5b100ece200e8b5b300,
  0xece300e8b68100ece400e8b69900_ece500e8b78200ece600e8b6be00_ece700e8b6ba00ece800e8b78f00,
  0xece900e8b79a00ecea00e8b79600_eceb00e8b78c00ecec00e8b79b00_eced00e8b78b00ecee00e8b7aa00,
  0xecef00e8b7ab00ecf000e8b79f00_ecf100e8b7a300ecf200e8b7bc00_ecf300e8b88800ecf400e8b88900,
  0xecf500e8b7bf00ecf600e8b89d00_ecf700e8b89e00ecf800e8b89000_ecf900e8b89f00ecfa00e8b98200,
  0xecfb00e8b8b500ecfc00e8b8b000_ecfd00e8b8b400ecfe00e8b98a00_eda100e8b98700eda200e8b98900,
  0xeda300e8b98c00eda400e8b99000_eda500e8b98800eda600e8b99900_eda700e8b9a400eda800e8b9a000,
  0xeda900e8b8aa00edaa00e8b9a300_edab00e8b99500edac00e8b9b600_edad00e8b9b200edae00e8b9bc00,
  0xedaf00e8ba8100edb000e8ba8700_edb100e8ba8500edb200e8ba8400_edb300e8ba8b00edb400e8ba8a00,
  0xedb500e8ba9300edb600e8ba9100_edb700e8ba9400edb800e8ba9900_edb900e8baaa00edba00e8baa100,
  0xedbb00e8baac00edbc00e8bab000_edbd00e8bb8600edbe00e8bab100_edbf00e8babe00edc000e8bb8500,
  0xedc100e8bb8800edc200e8bb8b00_edc300e8bb9b00edc400e8bba300_edc500e8bbbc00edc600e8bbbb00,
  0xedc700e8bbab00edc800e8bbbe00_edc900e8bc8a00edca00e8bc8500_edcb00e8bc9500edcc00e8bc9200,
  0xedcd00e8bc9900edce00e8bc9300_edcf00e8bc9c00edd000e8bc9f00_edd100e8bc9b00edd200e8bc8c00,
  0xedd300e8bca600edd400e8bcb300_edd500e8bcbb00edd600e8bcb900_edd700e8bd8500edd800e8bd8200,
  0xedd900e8bcbe00edda00e8bd8c00_eddb00e8bd8900eddc00e8bd8600_eddd00e8bd8e00edde00e8bd9700,
  0xeddf00e8bd9c00ede000e8bda200_ede100e8bda300ede200e8bda400_ede300e8be9c00ede400e8be9f00,
  0xede500e8bea300ede600e8bead00_ede700e8beaf00ede800e8beb700_ede900e8bf9a00edea00e8bfa500,
  0xedeb00e8bfa200edec00e8bfaa00_eded00e8bfaf00edee00e9828700_edef00e8bfb400edf000e9808500,
  0xedf100e8bfb900edf200e8bfba00_edf300e9809100edf400e9809500_edf500e980a100edf600e9808d00,
  0xedf700e9809e00edf800e9809600_edf900e9808b00edfa00e980a700_edfb00e980b600edfc00e980b500,
  0xedfd00e980b900edfe00e8bfb800_eea100e9818f00eea200e9819000_eea300e9819100eea400e9819200,
  0xeea500e9808e00eea600e9818900_eea700e980be00eea800e9819600_eea900e9819800eeaa00e9819e00,
  0xeeab00e981a800eeac00e981af00_eead00e981b600eeae00e99aa800_eeaf00e981b200eeb000e9828200,
  0xeeb100e981bd00eeb200e9828100_eeb300e9828000eeb400e9828a00_eeb500e9828900eeb600e9828f00,
  0xeeb700e982a800eeb800e982af00_eeb900e982b100eeba00e982b500_eebb00e983a200eebc00e983a400,
  0xeebd00e6898800eebe00e9839b00_eebf00e9848200eec000e9849200_eec100e9849900eec200e984b200,
  0xeec300e984b000eec400e9858a00_eec500e9859600eec600e9859800_eec700e985a300eec800e985a500,
  0xeec900e985a900eeca00e985b300_eecb00e985b200eecc00e9868b00_eecd00e9868900eece00e9868200,
  0xeecf00e986a200eed000e986ab00_eed100e986af00eed200e986aa00_eed300e986b500eed400e986b400,
  0xeed500e986ba00eed600e9878000_eed700e9878100eed800e9878900_eed900e9878b00eeda00e9879000,
  0xeedb00e9879600eedc00e9879f00_eedd00e987a100eede00e9879b00_eedf00e987bc00eee000e987b500,
  0xeee100e987b600eee200e9889e00_eee300e987bf00eee400e9889400_eee500e988ac00eee600e9889500,
  0xeee700e9889100eee800e9899e00_eee900e9899700eeea00e9898500_eeeb00e9898900eeec00e989a400,
  0xeeed00e9898800eeee00e98a9500_eeef00e988bf00eef000e9898b00_eef100e9899000eef200e98a9c00,
  0xeef300e98a9600eef400e98a9300_eef500e98a9b00eef600e9899a00_eef700e98b8f00eef800e98ab900,
  0xeef900e98ab700eefa00e98ba900_eefb00e98c8f00eefc00e98bba00_eefd00e98d8400eefe00e98cae00,
  0xefa100e98c9900efa200e98ca200_efa300e98c9a00efa400e98ca300_efa500e98cba00efa600e98cb500,
  0xefa700e98cbb00efa800e98d9c00_efa900e98da000efaa00e98dbc00_efab00e98dae00efac00e98d9600,
  0xefad00e98eb000efae00e98eac00_efaf00e98ead00efb000e98e9400_efb100e98eb900efb200e98f9600,
  0xefb300e98f9700efb400e98fa800_efb500e98fa500efb600e98f9800_efb700e98f8300efb800e98f9d00,
  0xefb900e98f9000efba00e98f8800_efbb00e98fa400efbc00e9909a00_efbd00e9909400efbe00e9909300,
  0xefbf00e9908300efc000e9908700_efc100e9909000efc200e990b600_efc300e990ab00efc400e990b500,
  0xefc500e990a100efc600e990ba00_efc700e9918100efc800e9919200_efc900e9918400efca00e9919b00,
  0xefcb00e991a000efcc00e991a200_efcd00e9919e00efce00e991aa00_efcf00e988a900efd000e991b000,
  0xefd100e991b500efd200e991b700_efd300e991bd00efd400e9919a00_efd500e991bc00efd600e991be00,
  0xefd700e9928100efd800e991bf00_efd900e9968200efda00e9968700_efdb00e9968a00efdc00e9969400,
  0xefdd00e9969600efde00e9969800_efdf00e9969900efe000e996a000_efe100e996a800efe200e996a700,
  0xefe300e996ad00efe400e996bc00_efe500e996bb00efe600e996b900_efe700e996be00efe800e9978a00,
  0xefe900e6bfb600efea00e9978300_efeb00e9978d00efec00e9978c00_efed00e9979500efee00e9979400,
  0xefef00e9979600eff000e9979c00_eff100e997a100eff200e997a500_eff300e997a200eff400e998a100,
  0xeff500e998a800eff600e998ae00_eff700e998af00eff800e9998200_eff900e9998c00effa00e9998f00,
  0xeffb00e9998b00effc00e999b700_effd00e9999c00effe00e9999e00_f0a100e9999d00f0a200e9999f00,
  0xf0a300e999a600f0a400e999b200_f0a500e999ac00f0a600e99a8d00_f0a700e99a9800f0a800e99a9500,
  0xf0a900e99a9700f0aa00e99aaa00_f0ab00e99aa700f0ac00e99ab100_f0ad00e99ab200f0ae00e99ab000,
  0xf0af00e99ab400f0b000e99ab600_f0b100e99ab800f0b200e99ab900_f0b300e99b8e00f0b400e99b8b00,
  0xf0b500e99b8900f0b600e99b8d00_f0b700e8a58d00f0b800e99b9c00_f0b900e99c8d00f0ba00e99b9500,
  0xf0bb00e99bb900f0bc00e99c8400_f0bd00e99c8600f0be00e99c8800_f0bf00e99c9300f0c000e99c8e00,
  0xf0c100e99c9100f0c200e99c8f00_f0c300e99c9600f0c400e99c9900_f0c500e99ca400f0c600e99caa00,
  0xf0c700e99cb000f0c800e99cb900_f0c900e99cbd00f0ca00e99cbe00_f0cb00e99d8400f0cc00e99d8600,
  0xf0cd00e99d8800f0ce00e99d8200_f0cf00e99d8900f0d000e99d9c00_f0d100e99da000f0d200e99da400,
  0xf0d300e99da600f0d400e99da800_f0d500e58b9200f0d600e99dab00_f0d700e99db100f0d800e99db900,
  0xf0d900e99e8500f0da00e99dbc00_f0db00e99e8100f0dc00e99dba00_f0dd00e99e8600f0de00e99e8b00,
  0xf0df00e99e8f00f0e000e99e9000_f0e100e99e9c00f0e200e99ea800_f0e300e99ea600f0e400e99ea300,
  0xf0e500e99eb300f0e600e99eb400_f0e700e99f8300f0e800e99f8600_f0e900e99f8800f0ea00e99f8b00,
  0xf0eb00e99f9c00f0ec00e99fad00_f0ed00e9bd8f00f0ee00e99fb200_f0ef00e7ab9f00f0f000e99fb600,
  0xf0f100e99fb500f0f200e9a08f00_f0f300e9a08c00f0f400e9a0b800_f0f500e9a0a400f0f600e9a0a100,
  0xf0f700e9a0b700f0f800e9a0bd00_f0f900e9a18600f0fa00e9a18f00_f0fb00e9a18b00f0fc00e9a1ab00,
  0xf0fd00e9a1af00f0fe00e9a1b000_f1a100e9a1b100f1a200e9a1b400_f1a300e9a1b300f1a400e9a2aa00,
  0xf1a500e9a2af00f1a600e9a2b100_f1a700e9a2b600f1a800e9a38400_f1a900e9a38300f1aa00e9a38600,
  0xf1ab00e9a3a900f1ac00e9a3ab00_f1ad00e9a48300f1ae00e9a48900_f1af00e9a49200f1b000e9a49400,
  0xf1b100e9a49800f1b200e9a4a100_f1b300e9a49d00f1b400e9a49e00_f1b500e9a4a400f1b600e9a4a000,
  0xf1b700e9a4ac00f1b800e9a4ae00_f1b900e9a4bd00f1ba00e9a4be00_f1bb00e9a58200f1bc00e9a58900,
  0xf1bd00e9a58500f1be00e9a59000_f1bf00e9a58b00f1c000e9a59100_f1c100e9a59200f1c200e9a58c00,
  0xf1c300e9a59500f1c400e9a69700_f1c500e9a69800f1c600e9a6a500_f1c700e9a6ad00f1c800e9a6ae00,
  0xf1c900e9a6bc00f1ca00e9a79f00_f1cb00e9a79b00f1cc00e9a79d00_f1cd00e9a79800f1ce00e9a79100,
  0xf1cf00e9a7ad00f1d000e9a7ae00_f1d100e9a7b100f1d200e9a7b200_f1d300e9a7bb00f1d400e9a7b800,
  0xf1d500e9a88100f1d600e9a88f00_f1d700e9a88500f1d800e9a7a200_f1d900e9a89900f1da00e9a8ab00,
  0xf1db00e9a8b700f1dc00e9a98500_f1dd00e9a98200f1de00e9a98000_f1df00e9a98300f1e000e9a8be00,
  0xf1e100e9a99500f1e200e9a98d00_f1e300e9a99b00f1e400e9a99700_f1e500e9a99f00f1e600e9a9a200,
  0xf1e700e9a9a500f1e800e9a9a400_f1e900e9a9a900f1ea00e9a9ab00_f1eb00e9a9aa00f1ec00e9aaad00,
  0xf1ed00e9aab000f1ee00e9aabc00_f1ef00e9ab8000f1f000e9ab8f00_f1f100e9ab9100f1f200e9ab9300,
  0xf1f300e9ab9400f1f400e9ab9e00_f1f500e9ab9f00f1f600e9aba200_f1f700e9aba300f1f800e9aba600,
  0xf1f900e9abaf00f1fa00e9abab00_f1fb00e9abae00f1fc00e9abb400_f1fd00e9abb100f1fe00e9abb700,
  0xf2a100e9abbb00f2a200e9ac8600_f2a300e9ac9800f2a400e9ac9a00_f2a500e9ac9f00f2a600e9aca200,
  0xf2a700e9aca300f2a800e9aca500_f2a900e9aca700f2aa00e9aca800_f2ab00e9aca900f2ac00e9acaa00,
  0xf2ad00e9acae00f2ae00e9acaf00_f2af00e9acb200f2b000e9ad8400_f2b100e9ad8300f2b200e9ad8f00,
  0xf2b300e9ad8d00f2b400e9ad8e00_f2b500e9ad9100f2b600e9ad9800_f2b700e9adb400f2b800e9ae9300,
  0xf2b900e9ae8300f2ba00e9ae9100_f2bb00e9ae9600f2bc00e9ae9700_f2bd00e9ae9f00f2be00e9aea000,
  0xf2bf00e9aea800f2c000e9aeb400_f2c100e9af8000f2c200e9af8a00_f2c300e9aeb900f2c400e9af8600,
  0xf2c500e9af8f00f2c600e9af9100_f2c700e9af9200f2c800e9afa300_f2c900e9afa200f2ca00e9afa400,
  0xf2cb00e9af9400f2cc00e9afa100_f2cd00e9b0ba00f2ce00e9afb200_f2cf00e9afb100f2d000e9afb000,
  0xf2d100e9b09500f2d200e9b09400_f2d300e9b08900f2d400e9b09300_f2d500e9b08c00f2d600e9b08600,
  0xf2d700e9b08800f2d800e9b09200_f2d900e9b08a00f2da00e9b08400_f2db00e9b0ae00f2dc00e9b09b00,
  0xf2dd00e9b0a500f2de00e9b0a400_f2df00e9b0a100f2e000e9b0b000_f2e100e9b18700f2e200e9b0b200,
  0xf2e300e9b18600f2e400e9b0be00_f2e500e9b19a00f2e600e9b1a000_f2e700e9b1a700f2e800e9b1b600,
  0xf2e900e9b1b800f2ea00e9b3a700_f2eb00e9b3ac00f2ec00e9b3b000_f2ed00e9b48900f2ee00e9b48800,
  0xf2ef00e9b3ab00f2f000e9b48300_f2f100e9b48600f2f200e9b4aa00_f2f300e9b4a600f2f400e9b6af00,
  0xf2f500e9b4a300f2f600e9b49f00_f2f700e9b58400f2f800e9b49500_f2f900e9b49200f2fa00e9b58100,
  0xf2fb00e9b4bf00f2fc00e9b4be00_f2fd00e9b58600f2fe00e9b58800_f3a100e9b59d00f3a200e9b59e00,
  0xf3a300e9b5a400f3a400e9b59100_f3a500e9b59000f3a600e9b59900_f3a700e9b5b200f3a800e9b68900,
  0xf3a900e9b68700f3aa00e9b6ab00_f3ab00e9b5af00f3ac00e9b5ba00_f3ad00e9b69a00f3ae00e9b6a400,
  0xf3af00e9b6a900f3b000e9b6b200_f3b100e9b78400f3b200e9b78100_f3b300e9b6bb00f3b400e9b6b800,
  0xf3b500e9b6ba00f3b600e9b78600_f3b700e9b78f00f3b800e9b78200_f3b900e9b79900f3ba00e9b79300,
  0xf3bb00e9b7b800f3bc00e9b7a600_f3bd00e9b7ad00f3be00e9b7af00_f3bf00e9b7bd00f3c000e9b89a00,
  0xf3c100e9b89b00f3c200e9b89e00_f3c300e9b9b500f3c400e9b9b900_f3c500e9b9bd00f3c600e9ba8100,
  0xf3c700e9ba8800f3c800e9ba8b00_f3c900e9ba8c00f3ca00e9ba9200_f3cb00e9ba9500f3cc00e9ba9100,
  0xf3cd00e9ba9d00f3ce00e9baa500_f3cf00e9baa900f3d000e9bab800_f3d100e9baaa00f3d200e9baad00,
  0xf3d300e99da100f3d400e9bb8c00_f3d500e9bb8e00f3d600e9bb8f00_f3d700e9bb9000f3d800e9bb9400,
  0xf3d900e9bb9c00f3da00e9bb9e00_f3db00e9bb9d00f3dc00e9bba000_f3dd00e9bba500f3de00e9bba800,
  0xf3df00e9bbaf00f3e000e9bbb400_f3e100e9bbb600f3e200e9bbb700_f3e300e9bbb900f3e400e9bbbb00,
  0xf3e500e9bbbc00f3e600e9bbbd00_f3e700e9bc8700f3e800e9bc8800_f3e900e79ab700f3ea00e9bc9500,
  0xf3eb00e9bca100f3ec00e9bcac00_f3ed00e9bcbe00f3ee00e9bd8a00_f3ef00e9bd9200f3f000e9bd9400,
  0xf3f100e9bda300f3f200e9bd9f00_f3f300e9bda000f3f400e9bda100_f3f500e9bda600f3f600e9bda700,
  0xf3f700e9bdac00f3f800e9bdaa00_f3f900e9bdb700f3fa00e9bdb200_f3fb00e9bdb600f3fc00e9be9500,
  0xf3fd00e9be9c00f3fe00e9bea000_f4a100e5a0af00f4a200e6a78700_f4a300e9819900f4a400e791a400,
  0xf4a500e5879c00f4a600e7869900_f4a700e5999300f4a800e5b7a200_f4a900e5b89400f4aa00e5b89800,
  0xf4ab00e5b99800f4ac00e5b99e00_f4ad00e5babe00f4ae00efa4a800_f4af00e5bb8b00f4b000e5bbb900,
  0xf4b100e5bc8000f4b200e5bc8200_f4b300e5bc8700f4b400e5bc9d00_f4b500e5bca300f4b600e5bcb400,
  0xf4b700e5bcb600f4b800e5bcbd00_f4b900e5bd8000f4ba00e5bd8500_f4bb00e5bd9400f4bc00e5bd9800,
  0xf4bd00e5bda400f4be00e5bda700_f4bf00e5bdbd00f4c000e5be8900_f4c100e5be9c00f4c200e5bea700,
  0xf4c300e5beaf00f4c400e5beb500_f4c500e5beb700f4c600e5bf8900_f4c700e5bf9e00f4c800e5bfa100,
  0xf4c900e5bfa900f4ca00e6808d00_f4cb00e6809400f4cc00e6809800_f4cd00e680b300f4ce00e680b500,
  0xf4cf00e6818700f4d000efa8bd00_f4d100e6829d00f4d200e6829e00_f4d300e6838b00f4d400e6839400,
  0xf4d500e6839500f4d600e6839d00_f4d700e683b800f4d800e6849c00_f4d900e684ab00f4da00e684b000,
  0xf4db00e684b700f4dc00efa8be00_f4dd00e6868d00f4de00efa8bf00_f4df00e686bc00f4e000e686b900,
  0xf4e100efa98000f4e200e688a200_f4e300e688be00f4e400e6898300_f4e500e6899600f4e600e6899a00,
  0xf4e700e689af00f4e800e68a8500_f4e900e68b8400f4ea00e68b9600_f4eb00e68bbc00f4ec00e68c8a00,
  0xf4ed00e68c9800f4ee00e68cb900_f4ef00e68d8300f4f000e68da500_f4f100e68dbc00f4f200e68fa500,
  0xf4f300e68fad00f4f400e68fb500_f4f500e6909000f4f600e6909400_f4f700e690a200f4f800e691b900,
  0xf4f900e6919100f4fa00e691a000_f4fb00e691ad00f4fc00e6938e00_f4fd00e692be00f4fe00e692bf00,
  0xf5a100e6938400f5a200e6938a00_f5a300e6939000f5a400e693b700_f5a500e693bb00f5a600e694a200,
  0xf5a700e694a900f5a800efa98100_f5a900e695a700f5aa00e6969d00_f5ab00efa98200f5ac00e6988000,
  0xf5ad00e6988900f5ae00e6989500_f5af00e6989e00f5b000e698ba00_f5b100e698a200f5b200e698a400,
  0xf5b300e698ab00f5b400e698b000_f5b500e698b100f5b600e698b300_f5b700e69bbb00f5b800e6998800,
  0xf5b900e6998c00f5ba00f0a38784_f5bb00e6999900f5bc00e6999a00_f5bd00e699a100f5be00e699a500,
  0xf5bf00e699b300f5c000e699b700_f5c100e699b800f5c200e69a8d00_f5c300efa98300f5c400e69aa000,
  0xf5c500e69ab200f5c600e69abb00_f5c700e69b8600f5c800e69b8800_f5c900e3aca200f5ca00e69b9b00,
  0xf5cb00e69ba800f5cc00e69bba00_f5cd00e69c9300f5ce00efa4a900_f5cf00e69cb300f5d000e69da600,
  0xf5d100e69d8700f5d200e69d8800_f5d300e69dbb00f5d400e69e8100_f5d500e69e9300f5d600e69e9800,
  0xf5d700e69e9b00f5d800e69ebb00_f5d900e69fb900f5da00e69f8000_f5db00e69f9700f5dc00e69fbc00,
  0xf5dd00e6a08100f5de00e6a19200_f5df00e6a09d00f5e000e6a0ac00_f5e100e6a0b100f5e200e6a19b00,
  0xf5e300e6a1b200f5e400e6a1b500_f5e500efa98400f5e600e6a2a300_f5e700e6a2a500f5e800e6a2b200,
  0xf5e900e6a38800f5ea00e6a39000_f5eb00e6a3a800f5ec00e6a3ad00_f5ed00e6a3b000f5ee00e6a3b100,
  0xf5ef00e6a3bc00f5f000e6a48a00_f5f100e6a58900f5f200f0a39784_f5f300e6a4b500f5f400e6a58200,
  0xf5f500e6a59700f5f600e6a5a300_f5f700e6a5a400f5f800e6a5a800_f5f900e6a68000f5fa00efa89400,
  0xf5fb00e6a6a500f5fc00e6a6ad00_f5fd00e6a78f00f5fe00e3aeb600_f6a100e3af8300f6a200e6a7a200,
  0xf6a300e6a7a900f6a400e6a7aa00_f6a500e6a7b500f6a600e6a7b600_f6a700e6a88f00f6a800e6a89500,
  0xf6a900f0a39cbff6aa00e6a8bb00_f6ab00e6a8be00f6ac00e6a98500_f6ad00e6a99000f6ae00e6a99600,
  0xf6af00e6a99b00f6b000e6a9ab00_f6b100e6a9b300f6b200f0a39da3_f6b300e6aa8900f6b400e6aa9400,
  0xf6b500e6aa9d00f6b600e6aa9e00_f6b700e6aaa500f6b800e6aba400_f6b900e6aba700f6ba00e3b08f00,
  0xf6bb00efa49d00f6bc00e6ac9b00_f6bd00e6ac9e00f6be00e6acac00_f6bf00e6acb500f6c000e6ad8600,
  0xf6c100e6ad9600f6c200e6ada000_f6c300e6ada500f6c400e6ada700_f6c500e6adb700f6c600e6ae8200,
  0xf6c700e6aea900f6c800e6aead00_f6c900efa5b000f6ca00e6af8f00_f6cb00e6af9600f6cc00e6af9700,
  0xf6cd00e6afbf00f6ce00e6b08500_f6cf00e6b09000f6d000e6b0b300_f6d100e6b19900f6d200e6b19c00,
  0xf6d300e6b2aa00f6d400e6b1b400_f6d500e6b1b600f6d600e6b28500_f6d700e6b28600f6d800e6b29800,
  0xf6d900e6b29c00f6da00e6b3bb00_f6db00e6b38600f6dc00e6b39400_f6dd00e6b3a000f6de00e6b3ab00,
  0xf6df00e6b3ae00f6e000f0a3b3be_f6e100e6b48400f6e200e6b48e00_f6e300e6b4ae00f6e400e6b4b100,
  0xf6e500e6b4b900f6e600e6b4bf00_f6e700e6b59800f6e800e6b5a500_f6e900efa98500f6ea00e6b68200,
  0xf6eb00e6b68700f6ec00e6b68900_f6ed00e6b69400f6ee00e6b6aa00_f6ef00e6b6ac00f6f000e6b6bf00,
  0xf6f100e6b78400f6f200e6b79600_f6f300e6b79a00f6f400e6b79b00_f6f500e6b79d00f6f600e6b7bc00,
  0xf6f700efa98600f6f800e6b8b400_f6f900e6b98400f6fa00e6b99c00_f6fb00e6b99e00f6fc00e6baab00,
  0xf6fd00e6bab100f6fe00e6bb8100_f7a100e6bb8700f7a200e6bb8e00_f7a300e6bc9000f7a400e6bc9a00,
  0xf7a500efa98700f7a600e6bcaa00_f7a700e6bcaf00f7a800e6bcb300_f7a900e6bd9100f7aa00e6bd9900,
  0xf7ab00e6bd9e00f7ac00e6bda100_f7ad00e6bda200f7ae00e6bdbe00_f7af00e6be8800f7b000e6be8c00,
  0xf7b100e6be8d00f7b200e6be9400_f7b300e6bea000f7b400e6bea700_f7b500e6beb600f7b600e6bebc00,
  0xf7b700e6bf8700f7b800e6bf8a00_f7b900e6bfb900f7ba00e6bfb000_f7bb00e6bfb500f7bc00e7808500,
  0xf7bd00e7808600f7be00e780a800_f7bf00e7818a00f7c000e7819d00_f7c100e7819e00f7c200e7818e00,
  0xf7c300e781a400f7c400e781b500_f7c500e7828500f7c600e782a400_f7c700e782ab00f7c800e782b700,
  0xf7c900e7839400f7ca00e7839800_f7cb00e783a400f7cc00e7848f00_f7cd00e784ab00f7ce00e7849e00,
  0xf7cf00e784a000f7d000e784ae00_f7d100e784b000f7d200e7858600_f7d300e7858700f7d400e7859100,
  0xf7d500efa98800f7d600e7859200_f7d700e7859c00f7d800e785a000_f7d900e785a800f7da00efa89500,
  0xf7db00e7868500f7dc00e7868700_f7dd00e7869200f7de00e7878100_f7df00e786ba00f7e000e7878400,
  0xf7e100e787be00f7e200e7888000_f7e300e7889500f7e400e7899500_f7e500e7899600f7e600e3b8bf00,
  0xf7e700e78a8d00f7e800e78a9b00_f7e900e78abe00f7ea00e78b8000_f7eb00e78bbb00f7ec00f0a49fb1,
  0xf7ed00e78ca700f7ee00e78ca800_f7ef00efa89600f7f000e78d9000_f7f100e78da600f7f200e78dbc00,
  0xf7f300e78e9500f7f400e78e9f00_f7f500e78ea000f7f600e78ea200_f7f700e78ea600f7f800e78eab00,
  0xf7f900e78f8900f7fa00e78f8f00_f7fb00e78f9600f7fc00e78f9900_f7fd00e78fa300f7fe00e78fa900,
  0xf8a100e7908700f8a200e7908a00_f8a300e7909a00f8a400e7909b00_f8a500efa98a00f8a600e790a600,
  0xf8a700e790a800f8a800e790aa00_f8a900e790ab00f8aa00e790ac00_f8ab00e790ae00f8ac00e790af00,
  0xf8ad00e790b000f8ae00e7918400_f8af00e7918600f8b000e7918700_f8b100e7918b00f8b200e7919700,
  0xf8b300e791a200f8b400e791ab00_f8b500e791ad00f8b600e7928600_f8b700e7928700f8b800e7928900,
  0xf8b900e7929800f8ba00e7929c00_f8bb00e7929f00f8bc00e792a300_f8bd00e7929000f8be00e792a600,
  0xf8bf00e792a800f8c000e792a900_f8c100e792b500f8c200e792bf00_f8c300e7938800f8c400e7938900,
  0xf8c500e7939a00f8c600e793bf00_f8c700e7948100f8c800e7949700_f8c900e794af00f8ca00e795af00,
  0xf8cb00e795b900f8cc00e7969200_f8cd00e3bdb200f8ce00e7978e00_f8cf00e797a400f8d000e7988000,
  0xf8d100e7988200f8d200e7988800_f8d300e7989500f8d400e7989600_f8d500e7989900f8d600e7989e00,
  0xf8d700e798ad00f8d800e798b500_f8d900e7998300f8da00e7998b00_f8db00e799a400f8dc00e799a500,
  0xf8dd00e799ad00f8de00e799af00_f8df00e799b100f8e000e79a8100_f8e100e79a9b00f8e200e79a9d00,
  0xf8e300e79a9e00f8e400e79aa600_f8e500e79aaa00f8e600e79ab600_f8e700e79b8500f8e800e79b8c00,
  0xf8e900e79b8e00f8ea00e79b9400_f8eb00e79ba600f8ec00e79bb100_f8ed00e79bbc00f8ee00e79c8a00,
  0xf8ef00e79c9900f8f000e79cb400_f8f100e79cb600f8f200e79d8600_f8f300e79d8d00f8f400e79d8e00,
  0xf8f500e79d9c00f8f600e79d9f00_f8f700e79da200f8f800e79dba00_f8f900e79e8000f8fa00e79e9400,
  0xf8fb00e79eaa00f8fc00e79fa000_f8fd00e7a0ad00f8fe00f0a5928e_f9a100e7a18300f9a200e7a18e00,
  0xf9a300e7a18f00f9a400e7a19100_f9a500e7a1a800f9a600e7a1ae00_f9a700efa98b00f9a800e7a2b000,
  0xf9a900f0a5948ef9aa00e7a2ad00_f9ab00e7a3a400f9ac00e7a3b200_f9ad00e7a48000f9ae00e7a3b700,
  0xf9af00e7a49c00f9b000e7a4ae00_f9b100e7a4b100f9b200e7a4b400_f9b300efa98c00f9b400efa98d00,
  0xf9b500e7a58500f9b600e7a58600_f9b700efa98e00f9b800efa98f00_f9b900efa99000f9ba00e7a59c00,
  0xf9bb00efa99100f9bc00efa89900_f9bd00efa89a00f9be00e7a5b900_f9bf00efa99200f9c000efa99300,
  0xf9c100efa89b00f9c200e7a69800_f9c300e7a6b100f9c400e7a6b800_f9c500e7a78800f9c600e7a78a00,
  0xf9c700f0a59db1f9c800e7a79400_f9c900e7a79e00f9ca00e7a7ab00_f9cb00e7a7ad00f9cc00e7a88300,
  0xf9cd00efa99400f9ce00e7a8b900_f9cf00e7a99d00f9d000e7a9ad00_f9d100efa99500f9d200e7aa8500,
  0xf9d300e7aaa000f9d400f0a5a784_f9d500e7aab300f9d600e7aabb00_f9d700e7ab8e00f9d800e7abab00,
  0xf9d900e7abbd00f9da00e7ac9200_f9db00e7acad00f9dc00e7acbb00_f9dd00e7ad8700f9de00e7ad8e00,
  0xf9df00e7ada000f9e000e7adad00_f9e100e7adaf00f9e200e7adb200_f9e300e7ae9e00f9e400efa99600,
  0xf9e500e7af9700f9e600e7af9900_f9e700e7b08100f9e800e7b0b100_f9e900e7b09e00f9ea00e7b0a000,
  0xf9eb00e7b0b300f9ec00e7b0b600_f9ed00e489a400f9ee00f0a5b6a1_f9ef00e7b19900f9f000e7b1ad00,
  0xf9f100e7b1b900f9f200e7b28f00_f9f300e7b29400f9f400e7b2a000_f9f500e7b2bc00f9f600e7b39500,
  0xf9f700e7b39900f9f800e7b39d00_f9f900e7b48700f9fa00e7b48800_f9fb00e7b49300f9fc00e7b49d00,
  0xf9fd00e7b4a300f9fe00e7b4b100_faa100e7b58100faa200e7b58800_faa300e7b59300faa400e7b59c00,
  0xfaa500e7b5ba00faa600e7b68300_faa700e7b68b00faa800e7b6a000_faa900e7b6a600faaa00e7b78200,
  0xfaab00e7b78c00faac00e7b79600_faad00e7b7a300faae00efa99700_faaf00e7b8a800fab000e7b88800,
  0xfab100e7b89100fab200e7b89500_fab300efa99900fab400e7b98700_fab500e7b99200fab600e7b9a100,
  0xfab700e7ba8a00fab800e7ba8d00_fab900e7bd8700faba00efa99a00_fabb00e7be9100fabc00e7be9700,
  0xfabd00e7bebf00fabe00e7bf8e00_fabf00e7bf9b00fac000e7bf9f00_fac100e7bfac00fac200e7bfae00,
  0xfac300e7bfba00fac400efa99b00_fac500e8809400fac600e880a600_fac700e880b500fac800e880b700,
  0xfac900e880bc00faca00e8838a00_facb00e8839700facc00e883a000_facd00e883b300face00e8849800,
  0xfacf00e8858a00fad000e885a000_fad100e885a700fad200e885a800_fad300e885ad00fad400e886bb00,
  0xfad500e8878a00fad600e8878f00_fad700e8879700fad800efa99c00_fad900e4919300fada00e4919b00,
  0xfadb00e889a000fadc00e889b400_fadd00f0a6abbffade00e88a8e00_fadf00e88aa100fae000e88aa300,
  0xfae100e88aa400fae200e88aa900_fae300e88aae00fae400e88ab700_fae500e88abe00fae600e88abf00,
  0xfae700e88b8600fae800e88b9500_fae900e88bbd00faea00e88bbe00_faeb00e88c8000faec00e88c8100,
  0xfaed00e88da200faee00e88ca200_faef00e88cad00faf000e88cba00_faf100e88d8300faf200e88d8700,
  0xfaf300e88d9100faf400e88d9500_faf500e88dbd00faf600e88e8600_faf700e88e9200faf800e88e9800,
  0xfaf900e88ea700fafa00e88ea900_fafb00e88ebf00fafc00e88f8000_fafd00e88f8700fafe00e88f8f00,
  0xfba100e88f9100fba200e88fa100_fba300e88faa00fba400e8908100_fba500e8908600fba600e8908a00,
  0xfba700efa99f00fba800e8918800_fba900e8919f00fbaa00e891b000_fbab00e891b300fbac00e8928500,
  0xfbad00e8929e00fbae00e892af00_fbaf00e892b400fbb000e892ba00_fbb100e8938000fbb200e8938200,
  0xfbb300f0a6b980fbb400e894b200_fbb500e8949e00fbb600e894a300_fbb700e894af00fbb800e8959900,
  0xfbb900e895a400fbba00efa89f00_fbbb00e896ad00fbbc00e895ba00_fbbd00e8968c00fbbe00e8968f00,
  0xfbbf00e896a200fbc000e896b000_fbc100e8978b00fbc200e8978e00_fbc300e897ad00fbc400e8989200,
  0xfbc500e897bf00fbc600e8988400_fbc700e8988500fbc800e8989000_fbc900f0a783b4fbca00e8989800,
  0xfbcb00e898a900fbcc00e898b800_fbcd00e8999700fbce00e8999b00_fbcf00efa4b600fbd000e899a200,
  0xfbd100e4969d00fbd200e899ac00_fbd300e899b500fbd400e89a9800_fbd500e89ab800fbd600e89bba00,
  0xfbd700e89bbc00fbd800e89bbd00_fbd900e89c8b00fbda00e89db100_fbdb00e89e8700fbdc00e89e8800,
  0xfbdd00e89eac00fbde00e89ead00_fbdf00e89eb500fbe000e497aa00_fbe100e89f9600fbe200e89fac00,
  0xfbe300e8a08600fbe400e8a08a00_fbe500e8a09000fbe600e8a09400_fbe700e8a09f00fbe800e8a29800,
  0xfbe900e8a2aa00fbea00e8a38a00_fbeb00e8a38e00fbec00f0a79a84_fbed00e8a3b500fbee00e8a49c00,
  0xfbef00efa9a000fbf000e8a49800_fbf100e8a49900fbf200e8a49a00_fbf300e8a4a700fbf400e8a4b000,
  0xfbf500e8a4b200fbf600e8a4b900_fbf700e8a58000fbf800e8a69400_fbf900efa9a100fbfa00e8a79400,
  0xfbfb00e8a7a500fbfc00e8a7b600_fbfd00e8a89200fbfe00e8a89500_fca100e8a8a200fca200e8a8b700,
  0xfca300e8a98700fca400e8a98e00_fca500e8a99d00fca600e8a9a100_fca700e8a9b500fca800e8a9b900,
  0xfca900e8aaa700fcaa00e8ab9000_fcab00e8ab9f00fcac00e8abb400_fcad00e8abb600fcae00efa8a200,
  0xfcaf00efa9a200fcb000efa9a300_fcb100e8ad8600fcb200e8ad9400_fcb300e8ad9900fcb400e8ada900,
  0xfcb500e8ae9d00fcb600e8b18900_fcb700e8b1a800fcb800efa9a400_fcb900e8b3a100fcba00e8b3b400,
  0xfcbb00e8b3b800fcbc00e8b3be00_fcbd00efa9a500fcbe00e8b49200_fcbf00e8b49b00fcc000e8b6af00,
  0xfcc100e8b78e00fcc200e8b79100_fcc300e8b79700fcc400e8b8a000_fcc500e8b8a300fcc600e8b8bd00,
  0xfcc700e8b9b000fcc800e8b9bb00_fcc900f0a889b7fcca00e8bb8000_fccb00e4a18400fccc00e8bbba00,
  0xfccd00e8bc9e00fcce00e8bcad00_fccf00e8bcb600fcd000e8bd9400_fcd100f0a88f8dfcd200e8bea600,
  0xfcd300e8beb500fcd400e8bfa400_fcd500e8bfa800fcd600e8bfae00_fcd700e9808800fcd800e980ad00,
  0xfcd900efa9a700fcda00e9828800_fcdb00e9829500fcdc00e9829700_fcdd00e9829900fcde00e9829b00,
  0xfcdf00e982a200fce000e982b300_fce100e982be00fce200e9838400_fce300e9838500fce400e9838700,
  0xfce500e9839700fce600e9839d00_fce700e9839e00fce800e983af00_fce900e983b400fcea00efa8a600,
  0xfceb00e9849400fcec00e9849500_fced00e9849600fcee00e984a200_fcef00e984a300fcf000e984a700,
  0xfcf100e984af00fcf200e984b100_fcf300e984b400fcf400e984bd00_fcf500e9858800fcf600e9859b00,
  0xfcf700e9868300fcf800e9869e00_fcf900e986ac00fcfa00e986b100_fcfb00e986bc00fcfc00e9879700,
  0xfcfd00e987bb00fcfe00e987a400_fda100e987a500fda200e987ad00_fda300e987b100fda400e9888700,
  0xfda500e9889000fda600e988b800_fda700e988b900fda800e988ba00_fda900e988bc00fdaa00e9898000,
  0xfdab00e9898300fdac00e9898f00_fdad00e989b800fdae00e98a8800_fdaf00e98b8200fdb000e98b8b00,
  0xfdb100e98b8c00fdb200e98b9300_fdb300e98ba000fdb400e98bbf00_fdb500e98c8400fdb600e98c9f00,
  0xfdb700e98ca100fdb800e98ca500_fdb900e98d8800fdba00e98d8900_fdbb00e98d8a00fdbc00e98da400,
  0xfdbd00e98da500fdbe00e98daa00_fdbf00e98db000fdc000e98e9b00_fdc100e98ea300fdc200e98eba00,
  0xfdc300e98f8600fdc400e98f9e00_fdc500e98f9f00fdc600e9908400_fdc700e98fbd00fdc800e990b300,
  0xfdc900e9918a00fdca00e991a300_fdcb00e991ab00fdcc00e991b100_fdcd00e991b200fdce00e9968e00,
  0xfdcf00e9969f00fdd000e996a600_fdd100e996a900fdd200e996ac00_fdd300e996b600fdd400e996bd00,
  0xfdd500e9978b00fdd600e9979000_fdd700e9979300fdd800e4a6b000_fdd900e9979a00fdda00e9979e00,
  0xfddb00e9999800fddc00e99a8400_fddd00efa79c00fdde00e99a9d00_fddf00e99aa400fde000e99aa500,
  0xfde100e99b9200fde200e99b9e00_fde300efa9a800fde400e99ba900_fde500e99baf00fde600e99cb300,
  0xfde700e99cbb00fde800e99d8d00_fde900e99d8e00fdea00e99d8f00_fdeb00e99d9a00fdec00e99dae00,
  0xfded00e99db300fdee00e99e9500_fdef00e99eae00fdf000e99eba00_fdf100e99f8100fdf200e99f8900,
  0xfdf300e99f9e00fdf400e99f9b00_fdf500e99fb400fdf600efa9a900_fdf700e9a08a00fdf800e9a09e00,
  0xfdf900e9a0ab00fdfa00e9a0b000_fdfb00efa9aa00fdfc00e9a19200_fdfd00e9a19300fdfe00e9a19600,
  0xfea100e9a19700fea200e9a19900_fea300e9a19a00fea400efa79000_fea500e9a1a500fea600e9a1ac00,
  0xfea700e9a2ba00fea800e9a38800_fea900e9a3a700feaa00e9a59800_feab00e9a69e00feac00e9a88200,
  0xfead00e9a88300feae00e9a8a400_feaf00e9a8ad00feb000e9a8ae00_feb100e9a8b800feb200e9a98a00,
  0xfeb300e9a98e00feb400e9a99200_feb500e9aab600feb600e9ab8100_feb700e9ab8300feb800e9ab8e00,
  0xfeb900e9ab9600feba00e9abb900_febb00e9ac8200febc00e9ac8800_febd00e9aca000febe00e4b09700,
  0xfebf00e9acad00fec000e9ad9e00_fec100e9adb900fec200e9ada600_fec300e9adb200fec400e9adb500,
  0xfec500e9ae8400fec600e9ae8a00_fec700e9ae8f00fec800e9ae9e00_fec900e9aea700feca00e9af8100,
  0xfecb00e9af8e00fecc00e9afa500_fecd00e9afb800fece00e9afbd00_fecf00e9b08000fed000e9b0a300,
  0xfed100e9b18100fed200e9b18f00_fed300e9b19000fed400e9b19300_fed500e9b1a300fed600e9b1a500,
  0xfed700e9b1b700fed800e9b49d00_fed900e9b49e00feda00e9b58300_fedb00e9b58700fedc00e9b59200,
  0xfedd00e9b5a300fede00e9b5b000_fedf00e9b5bc00fee000e9b68a00_fee100e9b69600fee200e9b78000,
  0xfee300e9b6ac00fee400e9b6bc00_fee500e9b79700fee600f0aa8690_fee700e9b7a700fee800e9b88700,
  0xfee900e9b89500feea00e9b9bc00_feeb00e9ba9e00feec00e9baa400_feed00e9baac00feee00e9baaf00,
  0xfeef00e9bab400fef000e9bab500_fef100e9bb8300fef200e9bb9100_fef300e9bc9000fef400e9bcb900,
  0xfef500e9bd9700fef600e9be9000_fef700e9be9400fef800e9be9700_fef900e9bea200fefa00e5a7b800,
  0xfefb00e5b19b00fefc00e5b9b700_fefd00e798a600fefe00e7b9ab00_8ea100efbda1008ea200efbda200,
  0x8ea300efbda3008ea400efbda400_8ea500efbda5008ea600efbda600_8ea700efbda7008ea800efbda800,
  0x8ea900efbda9008eaa00efbdaa00_8eab00efbdab008eac00efbdac00_8ead00efbdad008eae00efbdae00,
  0x8eaf00efbdaf008eb000efbdb000_8eb100efbdb1008eb200efbdb200_8eb300efbdb3008eb400efbdb400,
  0x8eb500efbdb5008eb600efbdb600_8eb700efbdb7008eb800efbdb800_8eb900efbdb9008eba00efbdba00,
  0x8ebb00efbdbb008ebc00efbdbc00_8ebd00efbdbd008ebe00efbdbe00_8ebf00efbdbf008ec000efbe8000,
  0x8ec100efbe81008ec200efbe8200_8ec300efbe83008ec400efbe8400_8ec500efbe85008ec600efbe8600,
  0x8ec700efbe87008ec800efbe8800_8ec900efbe89008eca00efbe8a00_8ecb00efbe8b008ecc00efbe8c00,
  0x8ecd00efbe8d008ece00efbe8e00_8ecf00efbe8f008ed000efbe9000_8ed100efbe91008ed200efbe9200,
  0x8ed300efbe93008ed400efbe9400_8ed500efbe95008ed600efbe9600_8ed700efbe97008ed800efbe9800,
  0x8ed900efbe99008eda00efbe9a00_8edb00efbe9b008edc00efbe9c00_8edd00efbe9d008ede00efbe9e00,
  0x8edf00efbe9f008fa1a1f0a08289_8fa1a2e4b882008fa1a3e4b88f00_8fa1a4e4b892008fa1a5e4b8a900,
  0x8fa1a6e4b8ab008fa1a7e4b8ae00_8fa1a8e4b980008fa1a9e4b98700_8fa1aae4b988008fa1abf0a082a2,
  0x8fa1ace4b991008fa1ade3908600_8fa1aef0a082a48fa1afe4b99a00_8fa1b0e4b9a9008fa1b1e4ba9d00,
  0x8fa1b2e390ac008fa1b3e390ae00_8fa1b4e4bab9008fa1b5e4babb00_8fa1b6f0a086a28fa1b7e4babc00,
  0x8fa1b8e4bb83008fa1b9e4bb8800_8fa1bae4bb90008fa1bbe4bbab00_8fa1bce4bb9a008fa1bde4bbb100,
  0x8fa1bee4bbb5008fa1bfe4bc8000_8fa1c0e4bc96008fa1c1e4bda400_8fa1c2e4bcb7008fa1c3e4bcbe00,
  0x8fa1c4e4bd94008fa1c5e4bd9800_8fa1c6f0a088938fa1c7e4bdb700_8fa1c8e4bdb8008fa1c9e4bdba00,
  0x8fa1cae4bdbd008fa1cbe4be8200_8fa1cce4be85008fa1cde4be9200_8fa1cee4be9a008fa1cfe4bfa600,
  0x8fa1d0e4beb2008fa1d1e4bebe00_8fa1d2e4bf85008fa1d3e4bf8b00_8fa1d4e4bf8f008fa1d5e4bf9200,
  0x8fa1d6e391aa008fa1d7e4bfb200_8fa1d8e58080008fa1d9e5809000_8fa1dae58093008fa1dbe5809c00,
  0x8fa1dce5809e008fa1dde580a200_8fa1dee391a8008fa1dfe5818200_8fa1e0e58186008fa1e1e5818e00,
  0x8fa1e2e58193008fa1e3e5819700_8fa1e4e581a3008fa1e5e581a600_8fa1e6e581aa008fa1e7e581b000,
  0x8fa1e8e582a3008fa1e9e5828800_8fa1eae58292008fa1ebe5829300_8fa1ece58295008fa1ede5829600,
  0x8fa1eee5829c008fa1efe582aa00_8fa1f0f0a08cab8fa1f1e582b100_8fa1f2e582ba008fa1f3e582bb00,
  0x8fa1f4e58384008fa1f5e5838700_8fa1f6e583b3008fa1f7f0a08e81_8fa1f8e5838e008fa1f9f0a08db1,
  0x8fa1fae58394008fa1fbe5839900_8fa1fce583a1008fa1fde583a900_8fa1fee39292008fa3a1e5848800,
  0x8fa3a2f0a08fb98fa3a3e5849700_8fa3a4e5849b008fa3a5f0a0918a_8fa3a6e585a0008fa3a7f0a09489,
  0x8fa3a8e585b3008fa3a9e5868300_8fa3aae5868b008fa3abe392bc00_8fa3ace58698008fa3ade586a300,
  0x8fa3aee586ad008fa3afe3938700_8fa3b0e586bc008fa3b1f0a09796_8fa3b2f0a098a88fa3b3e587b300,
  0x8fa3b4e587b4008fa3b5e5888200_8fa3b6e58892008fa3b7e5889600_8fa3b8f0a09d8f8fa3b9e5899500,
  0x8fa3bae5899c008fa3bbe589ac00_8fa3bce589b7008fa3bde58a8400_8fa3bee58a82008fa3bff0a0a087,
  0x8fa3c0e58a98008fa3c1f0a0a0ba_8fa3c2e58aa4008fa3c3e58aa600_8fa3c4e58aaf008fa3c5e58aba00,
  0x8fa3c6e58abb008fa3c7e58b8a00_8fa3c8e3949f008fa3c9e58b9100_8fa3caf0a0a2b98fa3cbe58bb700,
  0x8fa3cce58c8a008fa3cde58c8b00_8fa3cee58ca4008fa3cfe58cb500_8fa3d0e58cbe008fa3d1e58d8200,
  0x8fa3d2f0a0a5bc8fa3d3f0a0a69d_8fa3d4e58da7008fa3d5e58dac00_8fa3d6e58dba008fa3d7e58ea400,
  0x8fa3d8e58eb4008fa3d9f0a0ab93_8fa3dae58eb7008fa3dbe58f8000_8fa3dcf0a0ac9d8fa3dde3959d00,
  0x8fa3dee3959e008fa3dfe58f9500_8fa3e0e58f9a008fa3e1e395a300_8fa3e2e58fb4008fa3e3e58fb500,
  0x8fa3e4e59195008fa3e5e590a400_8fa3e6e590a8008fa3e7e395ae00_8fa3e8e59183008fa3e9e591a200,
  0x8fa3eae591a6008fa3ebe591ac00_8fa3ece5928a008fa3ede5928d00_8fa3eee59295008fa3efe592a000,
  0x8fa3f0e592a6008fa3f1e592ad00_8fa3f2e592ae008fa3f3e592b700_8fa3f4e592ba008fa3f5e592bf00,
  0x8fa3f6e59383008fa3f7f0a0b585_8fa3f8e593ac008fa3f9e593af00_8fa3fae593b1008fa3fbe593b300,
  0x8fa3fce59480008fa3fde5948100_8fa3fee59489008fa4a1e594bc00_8fa4a2e59581008fa4a3e396a600,
  0x8fa4a4e59587008fa4a5e5958a00_8fa4a6e396a8008fa4a7e595a000_8fa4a8e595a1008fa4a9e595a400,
  0x8fa4aaf0a0b7a18fa4abe595bd00_8fa4ace59682008fa4ade5968800_8fa4aee59691008fa4afe3978500,
  0x8fa4b0e59792008fa4b1f0a0ba95_8fa4b2f0a0b9ad8fa4b3e596bf00_8fa4b4e59789008fa4b5e5978c00,
  0x8fa4b6e59791008fa4b7e5979d00_8fa4b8e3979a008fa4b9e597a200_8fa4baf0a0b9a48fa4bbe597a900,
  0x8fa4bce598a8008fa4bdf0a0bd9f_8fa4bee59887008fa4bfe5989000_8fa4c0e598b0008fa4c1e598b700,
  0x8fa4c2e397b4008fa4c3e598bd00_8fa4c4e598bf008fa4c5e5998000_8fa4c6e59987008fa4c7e5999e00,
  0x8fa4c8e599a0008fa4c9e599ad00_8fa4cae39885008fa4cbe59a8800_8fa4cce59a8c008fa4cde59a9500,
  0x8fa4cee59a9a008fa4cfe59a9d00_8fa4d0e59aa8008fa4d1e59aad00_8fa4d2e59ab2008fa4d3e59b8500,
  0x8fa4d4e59b8d008fa4d5e59b9f00_8fa4d6e59ba8008fa4d7e59bb600_8fa4d8e59bb7008fa4d9f0a18881,
  0x8fa4dae59c95008fa4dbe59ca300_8fa4dcf0a189958fa4dde59ca900_8fa4def0a189bb8fa4dfe59d8500,
  0x8fa4e0e59d86008fa4e1e59d8c00_8fa4e2e59d8d008fa4e3f0a189b4_8fa4e4e59da8008fa4e5e59daf00,
  0x8fa4e6e59db3008fa4e7e59db400_8fa4e8e59db5008fa4e9e59dbb00_8fa4eaf0a18ba48fa4ebf0a18b97,
  0x8fa4ece59eac008fa4ede59e9a00_8fa4eee59e9d008fa4efe59e9e00_8fa4f0e59ea8008fa4f1e59f9700,
  0x8fa4f2f0a18bbd8fa4f3e59f8c00_8fa4f4f0a18cb68fa4f5f0a18d84_8fa4f6e59f9e008fa4f7e59fa600,
  0x8fa4f8e59fb0008fa4f9e3998a00_8fa4fae59fb8008fa4fbe59fbb00_8fa4fce59fbd008fa4fde5a08400,
  0x8fa4fee5a09e008fa5a1e5a0a000_8fa5a2e5a0a7008fa5a3e5a0b200_8fa5a4e5a0b9008fa5a5f0a18f84,
  0x8fa5a6e5a189008fa5a7e5a18c00_8fa5a8e5a1a7008fa5a9e5a28a00_8fa5aae5a28b008fa5abe5a28d00,
  0x8fa5ace5a28f008fa5ade5a29000_8fa5aee5a294008fa5afe5a29d00_8fa5b0e5a2aa008fa5b1e5a2b100,
  0x8fa5b2f0a191ad8fa5b3e5a38300_8fa5b4e5a38d008fa5b5e5a3a200_8fa5b6e5a3b3008fa5b7e5a3b400,
  0x8fa5b8e5a485008fa5b9e5a48600_8fa5bae5a48b008fa5bbe5a48d00_8fa5bce5a494008fa5bde5a4a400,
  0x8fa5bef0a197978fa5bfe39a9100_8fa5c0e5a4bd008fa5c1e39a9900_8fa5c2e5a586008fa5c3e39a9600,
  0x8fa5c4f0a6b0a98fa5c5e5a59b00_8fa5c6e5a59f008fa5c7f0a19987_8fa5c8e5a5b5008fa5c9e5a5b600,
  0x8fa5cae5a5bc008fa5cbe5a69f00_8fa5cce5a6ae008fa5cde5a6bc00_8fa5cee5a788008fa5cfe5a78d00,
  0x8fa5d0e5a79e008fa5d1e5a7a300_8fa5d2e5a7a4008fa5d3e5a7a700_8fa5d4e5a7ae008fa5d5f0a19c86,
  0x8fa5d6f0a19d828fa5d7e39b8f00_8fa5d8e5a88c008fa5d9e5a88d00_8fa5dae5a897008fa5dbe5a8a700,
  0x8fa5dce5a8ad008fa5dde5a99500_8fa5dee5a9a5008fa5dfe5a9ba00_8fa5e0e5aa8b008fa5e1e5aa9c00,
  0x8fa5e2e5aa9f008fa5e3e5aaa000_8fa5e4e5aaa2008fa5e5e5aab100_8fa5e6e5aab3008fa5e7e5aab500,
  0x8fa5e8e5aaba008fa5e9e5aabf00_8fa5eae5ab9a008fa5ebe5ab9c00_8fa5ece5aba0008fa5ede5aba500,
  0x8fa5eee5abb0008fa5efe5abae00_8fa5f0e5abb5008fa5f1e5ac8000_8fa5f2e5ac88008fa5f3e5ac9700,
  0x8fa5f4e5acb4008fa5f5e5acad00_8fa5f6e5ad8c008fa5f7e5ad9200_8fa5f8e5ada8008fa5f9e5adaf00,
  0x8fa5fae5adbc008fa5fbe5adbf00_8fa5fce5ae81008fa5fde5ae8400_8fa5fef0a1a7838fa8a1e5ae9600,
  0x8fa8a2e5aeac008fa8a3e39da100_8fa8a4e5af80008fa8a5e39da200_8fa8a6e5af8e008fa8a7e5af9600,
  0x8fa8a8e39dac008fa8a9e39dab00_8fa8aae5afb1008fa8abe5afbd00_8fa8ace39db5008fa8ade5b08300,
  0x8fa8aee5b0a9008fa8afe5b0b000_8fa8b0f0a1b1968fa8b1e5b19f00_8fa8b2e5b1a3008fa8b3e5b1a700,
  0x8fa8b4e5b1a8008fa8b5e5b1a900_8fa8b6e5b1b0008fa8b7f0a1b4ad_8fa8b8f0a1b5858fa8b9e5b1bc00,
  0x8fa8baf0a1b5b88fa8bbf0a1b5a2_8fa8bce5b288008fa8bde5b28a00_8fa8bee39f81008fa8bff0a1b6a1,
  0x8fa8c0f0a1b69c8fa8c1e5b2a000_8fa8c2e5b2a2008fa8c3e5b2a600_8fa8c4e5b2a7008fa8c5f0a1b692,
  0x8fa8c6e5b2ad008fa8c7e5b2b500_8fa8c8f0a1b6b78fa8c9e5b38900_8fa8caf0a1b7a08fa8cbf0a1b8b3,
  0x8fa8cce5b486008fa8cde5b49000_8fa8cee5b4ab008fa8cfe5b49d00_8fa8d0e5b4a0008fa8d1e5b4a400,
  0x8fa8d2e5b4a6008fa8d3e5b4b100_8fa8d4e5b4b9008fa8d5e5b58200_8fa8d6e39fa8008fa8d7e5b5a100,
  0x8fa8d8e5b5aa008fa8d9e39fb400_8fa8dae5b5b0008fa8dbf0a1bc9e_8fa8dce39fbd008fa8dde5b68800,
  0x8fa8dee3a080008fa8dfe5b69200_8fa8e0e5b694008fa8e1e5b69700_8fa8e2e5b699008fa8e3e5b6b000,
  0x8fa8e4e5b6b2008fa8e5e5b6b400_8fa8e6f0a1bdb68fa8e7e5b6b900_8fa8e8e5b791008fa8e9e5b79700,
  0x8fa8eae5b798008fa8ebe5b7a000_8fa8ecf0a1bfba8fa8ede5b7a400_8fa8eee5b7a9008fa8efe3a0af00,
  0x8fa8f0e5b880008fa8f1e3a0b600_8fa8f2e5b892008fa8f3e5b89500_8fa8f4e3a180008fa8f5e5b89f00,
  0x8fa8f6e5b8ae008fa8f7e5b8be00_8fa8f8e5b989008fa8f9e3a19c00_8fa8fae5b996008fa8fbe3a1a100,
  0x8fa8fce5b9ab008fa8fde5b9ac00_8fa8fee5b9ad008faca1e5b9ae00_8faca2f0a285bb8faca3e5baa500,
  0x8faca4e5baaa008faca5e5baac00_8faca6e5bab9008faca7e5babf00_8faca8e5bb86008faca9e5bb9200,
  0x8facaae5bb99008facabf0a28c9e_8facace5bbbd008facade5bc8800_8facaee5bc8e008facafe5bc9c00,
  0x8facb0f0a28ead8facb1e5bc9e00_8facb2e5bd87008facb3e5bda300_8facb4e5bdb2008facb5e5bdbe00,
  0x8facb6e5be8f008facb7e5bea200_8facb8e5bea4008facb9e5beb800_8facbae5bf84008facbbe3a3ba00,
  0x8facbce5bf87008facbde5bf8b00_8facbee5bf92008facbfe5bf9300_8facc0e5bf94008facc1e5bfa200,
  0x8facc2e5bfae008facc3e5bfaf00_8facc4e5bfb3008facc5e5bfbc00_8facc6e3a497008facc7e6809700,
  0x8facc8e680a2008facc9e680a400_8faccae3a49a008faccbe6818c00_8faccce681bf008faccde6828a00,
  0x8faccee68295008faccfe682a800_8facd0f0a29bb38facd1e682b000_8facd2e682b1008facd3e682be00,
  0x8facd4e68388008facd5e6839900_8facd6e6839b008facd7e683ae00_8facd8e683b2008facd9e683b500,
  0x8facdae68490008facdbe6849200_8facdce68493008facdde6849900_8facdee6849e008facdfe684ba00,
  0x8face0e3a5af008face1e6858100_8face2e68586008face3e685a000_8face4e685bc008face5f0a2a19b,
  0x8face6e68692008face7e6869300_8face8e68697008face9e6869800_8faceae686a5008facebe686a800,
  0x8facece686ad008facedf0a2a2ab_8faceee68795008facefe6879d00_8facf0e6879f008facf1e687b500,
  0x8facf2f0a2a68f8facf3e6889500_8facf4e688a3008facf5e688a900_8facf6e68986008facf7e6898c00,
  0x8facf8e68991008facf9e6899200_8facfae689a1008facfbe689a400_8facfce689bb008facfde689ad00,
  0x8facfee689b3008fada1e68a9900_8fada2e68aa6008fada3e68b9500_8fada4f0a2aab88fada5e68bbd00,
  0x8fada6e68c83008fada7e68c8d00_8fada8e68c90008fada9f0a2ad8f_8fadaaf0a2ad908fadabe68cb200,
  0x8fadace68cb5008fadade68cbb00_8fadaee68cbc008fadafe68d8100_8fadb0e68d84008fadb1e68d8e00,
  0x8fadb2f0a2ad868fadb3e68d9900_8fadb4f0a2b09d8fadb5f0a2aea6_8fadb6e68dac008fadb7e68e8400,
  0x8fadb8e68e99008fadb9f0a2b0a4_8fadbae68e94008fadbbe68ebd00_8fadbce68fb7008fadbde68f9400,
  0x8fadbee68f95008fadbfe68f9c00_8fadc0e68fa0008fadc1e68fab00_8fadc2e68fac008fadc3e68fb200,
  0x8fadc4e69089008fadc5e6909e00_8fadc6e690a5008fadc7e690a900_8fadc8e690af008fadc9e6919a00,
  0x8fadcae6919b008fadcbe6919d00_8fadcce691b3008fadcde691bd00_8fadcee69287008fadcfe6929100,
  0x8fadd0e6929d008fadd1e6929f00_8fadd2e6938b008fadd3e6938c00_8fadd4e69395008fadd5e6939700,
  0x8fadd6f0a2b7a18fadd7e693a400_8fadd8e693a5008fadd9e693bf00_8faddae69484008faddbe3a9ae00,
  0x8faddce6948f008faddde6949400_8faddee69496008faddfe3a9b300_8fade0e6949e008fade1e694b200,
  0x8fade2e69584008fade3e6959400_8fade4e695ab008fade5e695ba00_8fade6e69681008fade7e6968400,
  0x8fade8e69685008fade9e6968a00_8fadeae696b2008fadebe696b500_8fadece696b8008fadede696bf00,
  0x8fadeee69782008fadefe6978900_8fadf0e69794008fadf1e3ab9600_8fadf2e697b2008fadf3e697b900,
  0x8fadf4e697bc008fadf5e6988400_8fadf6e69888008fadf7e698a100_8fadf8e698aa008fadf9e6998500,
  0x8fadfae69991008fadfbe6998e00_8fadfce3abaa008fadfdf0a38783_8fadfee69997008faea1e6999b00,
  0x8faea2e699a3008faea3f0a387b5_8faea4f0a386b68faea5e699aa00_8faea6e699ab008faea7e699ac00,
  0x8faea8e699ad008faea9e699bb00_8faeaae69a80008faeabe69a9000_8faeace69a92008faeade69a9900,
  0x8faeaee3ac8e008faeafe69aad00_8faeb0e69ab1008faeb1e69ab500_8faeb2e3ac9a008faeb3e69abf00,
  0x8faeb4e3ac9c008faeb5e69bac00_8faeb6e3ab97008faeb7e69c8100_8faeb8e69c85008faeb9e69c9200,
  0x8faebaf0a38db28faebbe69c9900_8faebcf0a38f938faebdf0a38f92_8faebee69d8c008faebfe69d8d00,
  0x8faec0e69d94008faec1e69d9d00_8faec2f0a38f908faec3f0a38fa4_8faec4f0a38f958faec5e69db400,
  0x8faec6e69db6008faec7f0a38f9a_8faec8e69e92008faec9f0a38f9f_8faecae88da3008faecbe6a09000,
  0x8faecce69eb0008faecde69eb200_8faecee69f83008faecfe69f8800_8faed0e69f92008faed1e69f9900,
  0x8faed2e69f9b008faed3e69fb000_8faed4e69fb7008faed5f0a3918a_8faed6f0a391918faed7f0a3918b,
  0x8faed8e6a098008faed9e6a09f00_8faedae6a0ad008faedbf0a391a5_8faedce6a0b3008faedde6a0bb00,
  0x8faedee6a0be008faedfe6a18400_8faee0e6a185008faee1e6a18900_8faee2e6a18c008faee3e6a19500,
  0x8faee4e6a197008faee5e3adb700_8faee6e6a1ab008faee7e6a1ae00_8faee8e6a1ba008faee9e6a1bc00,
  0x8faeeae6a282008faeebe6a29000_8faeece6a296008faeede3adad00_8faeeee6a298008faeefe6a29900,
  0x8faef0e6a29a008faef1e6a29c00_8faef2e6a2aa008faef3e6a2ab00_8faef4e6a2b4008faef5e6a2bb00,
  0x8faef6e6a3bb008faef7f0a393a4_8faef8f0a3959a8faef9efa89300_8faefae6a383008faefbe6a38500,
  0x8faefce6a38c008faefde6a38f00_8faefee6a396008fafa1e6a39900_8fafa2e6a3a4008fafa3e6a3a500,
  0x8fafa4e6a3ac008fafa5e6a3b700_8fafa6e6a483008fafa7e6a48700_8fafa8e3ae87008fafa9e3ae8800,
  0x8fafaaf0a396948fafabe6a4bb00_8faface3ae8d008fafade6a58600_8fafaee6a5a9008fafafe6a5ac00,
  0x8fafb0e6a5b2008fafb1e6a5ba00_8fafb2e6a5bf008fafb3e6a69200_8fafb4e3aea4008fafb5e6a69600,
  0x8fafb6e6a698008fafb7e6a6a600_8fafb8e6a6b0008fafb9e6a6b700_8fafbae6a6ba008fafbbe6a6bc00,
  0x8fafbce6a780008fafbde6a79100_8fafbee6a796008fafbff0a398b9_8fafc0f0a399878fafc1e6a8b000,
  0x8fafc2f0a398b88fafc3f0a398ba_8fafc4e6a7a3008fafc5e6a7ae00_8fafc6e6a7af008fafc7e6a7b300,
  0x8fafc8e3af8d008fafc9e6a7b400_8fafcae6a7be008fafcbe6a89100_8fafcce6a89a008fafcde6a89d00,
  0x8fafcef0a39c9c8fafcfe6a8b200_8fafd0e6a8b3008fafd1e6a8b400_8fafd2e6a8bf008fafd3e6a98600,
  0x8fafd4e6a989008fafd5e6a9ba00_8fafd6e6a98e008fafd7e6a99200_8fafd8e6a9a4008fafd9f0a39c8c,
  0x8fafdae6a9be008fafdbe6aa8300_8fafdce6aa8b008fafdde3afb000_8fafdee6aa91008fafdfe6aa9f00,
  0x8fafe0e6aaa1008fafe1f0a39da4_8fafe2e6aaab008fafe3e6aabd00_8fafe4e6ab86008fafe5e6ab9400,
  0x8fafe6e6ab90008fafe7e6ab9c00_8fafe8e6ab9d008fafe9f0a39fbf_8fafeaf0a39fa78fafebe6abac00,
  0x8fafece6abb1008fafede6abb200_8fafeee6abb3008fafefe6abbd00_8faff0f0a3a0a48faff1e6ac8b00,
  0x8faff2e6ac8f008faff3e6ac9000_8faff4e6ac91008faff5f0a3a0bd_8faff6e6ac97008faff7e3b0a600,
  0x8faff8e6acaf008faff9e6ad8a00_8faffae6ad98008faffbe6adac00_8faffce6adb5008faffde6adba00,
  0x8faffee6ae81008feea1e6ae9b00_8feea2e6aeae008feea3f0a3aa98_8feea4e6aebd008feea5e6aebe00,
  0x8feea6e6af87008feea7e6af8800_8feea8e6af89008feea9e6af9a00_8feeaae6afa6008feeabe6afa700,
  0x8feeace6afae008feeade6afb100_8feeaee6b082008feeafe6b08a00_8feeb0e6b08e008feeb1e6b0b500,
  0x8feeb2e6b0b6008feeb3e6b0ba00_8feeb4f0a3b1bf8feeb5e6b0bf00_8feeb6e6b18d008feeb7e6b19b00,
  0x8feeb8e6b1ad008feeb9e6b28400_8feebae6b289008feebbe3b38300_8feebce6b294008feebde6b29500,
  0x8feebee6b297008feebfe6b2ad00_8feec0e6b382008feec1e6b39000_8feec2e3b392008feec3e6b39600,
  0x8feec4e6b39a008feec5e6b39c00_8feec6e6b3a9008feec7e6b3ac00_8feec8e6b3ad008feec9f0a3b480,
  0x8feecae6b480008feecbe6b48a00_8feecce6b4a4008feecde6b4a600_8feecee6b4a7008feecfe6b1a700,
  0x8feed0e6b4af008feed1e6b4bc00_8feed2e6b59b008feed3e6b59e00_8feed4e6b5a0008feed5e6b5b000,
  0x8feed6e6b680008feed7e6b68100_8feed8e6b68a008feed9e6b68d00_8feedae6b691008feedbe6b69800,
  0x8feedcf0a3b5808feedde6b89700_8feedef0a3b7ba8feedff0a3b7b9_8feee0f0a3b7938feee1e6b6ab00,
  0x8feee2e6b6ae008feee3e6b6b400_8feee4e6b782008feee5e6b4b400_8feee6e6b788008feee7e6b78e00,
  0x8feee8e6b78f008feee9e6b79000_8feeeae6b79f008feeebe6b7a900_8feeece6b7b6008feeede6b8b600,
  0x8feeeee6b89e008feeefe6b8a200_8feef0e6b8a7008feef1e3b49100_8feef2e6b8b2008feef3e6b8bc00,
  0x8feef4e6b988008feef5e6b98900_8feef6e6b98b008feef7e6b98c00_8feef8e6b98f008feef9e6b99100,
  0x8feefae6b993008feefbe6b99400_8feefce6b997008feefde6b9a300_8feefee3b49e008fefa1e6ba9300,
  0x8fefa2e6baa7008fefa3e6bab400_8fefa4e6babf008fefa5e6bb8300_8fefa6e6bb8a008fefa7e6bb9900,
  0x8fefa8e6bcb5008fefa9e6bbab00_8fefaae6bbb9008fefabe6bbbb00_8feface6bc8a008fefade6bc8c00,
  0x8fefaee6bc98008fefafe6bca500_8fefb0e6bcb6008fefb1e6bcbc00_8fefb2f0a3bdbe8fefb3e6bd9200,
  0x8fefb4e6bd97008fefb5e6bd9a00_8fefb6e6bda0008fefb7e6bda800_8fefb8e6be98008fefb9e6bdbd00,
  0x8fefbae6be90008fefbbe6be9600_8fefbce6bebe008fefbde6be9f00_8fefbee6bea5008fefbfe6beaf00,
  0x8fefc0e3b5a4008fefc1e6beb500_8fefc2e6bf88008fefc3e6bf8900_8fefc4e6bf9a008fefc5e6bf9e00,
  0x8fefc6e6bfa9008fefc7f0a48296_8fefc8e6bfbc008fefc9e7808000_8fefcae78087008fefcbe7808a00,
  0x8fefcce780a3008fefcdf0a48483_8fefcee780b9008fefcfe780ba00_8fefd0e780bc008fefd1e7818300,
  0x8fefd2e78187008fefd3e7818b00_8fefd4e3b69a008fefd5e7819400_8fefd6e781a5008fefd7e781a900,
  0x8fefd8e781ac008fefd9e781ae00_8fefdae781b6008fefdbe781be00_8fefdce78281008fefdde7828600,
  0x8fefdee78295008fefdfe7829700_8fefe0e782bb008fefe1f0a48786_8fefe2e7829f008fefe3e782b100,
  0x8fefe4f0a487be8fefe5e783ac00_8fefe6e7838a008fefe7e7839100_8fefe8e78393008fefe9e7839c00,
  0x8fefeae78483008fefebe7848400_8fefece78486008fefede7848700_8fefeee78488008fefefe7848c00,
  0x8feff0e3b780008feff1e784af00_8feff2e784b1008feff3e7859000_8feff4e7858a008feff5e7859300,
  0x8feff6e7859e008feff7e3b79400_8feff8e78696008feff9e7868000_8feffae7869b008feffbe786a000,
  0x8feffce786a2008feffde786ae00_8feffee786af008ff0a1e786b300_8ff0a2f0a48ebc8ff0a3e7878b00,
  0x8ff0a4e78793008ff0a5e7879900_8ff0a6e7879c008ff0a7e7888700_8ff0a8e3b885008ff0a9efa98900,
  0x8ff0aae788ab008ff0abe788b400_8ff0ace788b8008ff0ade788b900_8ff0aee4b8ac008ff0afe7898200,
  0x8ff0b0e78993008ff0b1e7899700_8ff0b2e789a3008ff0b3f0a498a9_8ff0b4e789ae008ff0b5e789af00,
  0x8ff0b6e789b8008ff0b7e789bf00_8ff0b8e78a8e008ff0b9f0a49aa5_8ff0bae78aad008ff0bbe78aae00,
  0x8ff0bce78ab0008ff0bde78ab100_8ff0bee78b81008ff0bfe3b9a000_8ff0c0e78b8c008ff0c1e3b9a600,
  0x8ff0c2e3b9a8008ff0c3e78bb300_8ff0c4e78bba008ff0c5e78c8700_8ff0c6e78c92008ff0c7e78c9800,
  0x8ff0c8e78c99008ff0c9e3ba8300_8ff0cae78cb9008ff0cbe78cac00_8ff0cce78cb1008ff0cde78cb300,
  0x8ff0cee78cbd008ff0cfe78d9200_8ff0d0e3ba94008ff0d1e78dab00_8ff0d2e78dac008ff0d3f0a4a296,
  0x8ff0d4e78dae008ff0d5e78daf00_8ff0d6e78db1008ff0d7e78db700_8ff0d8e78e81008ff0d9e78e8500,
  0x8ff0dae78e8a008ff0dbe78e9400_8ff0dce78e98008ff0dde78e9c00_8ff0dee78e9e008ff0dfe78ea500,
  0x8ff0e0e78ea8008ff0e1e78eb500_8ff0e2e78eb7008ff0e3e78eb900_8ff0e4e78ebc008ff0e5e78ebf00,
  0x8ff0e6e78f85008ff0e7e78f8b00_8ff0e8e78fa1008ff0e9e78fa700_8ff0eae78fb9008ff0ebe7909300,
  0x8ff0ece78fba008ff0ede7908100_8ff0eee790a4008ff0efe790b100_8ff0f0e790b9008ff0f1e7919300,
  0x8ff0f2e79180008ff0f3e7918300_8ff0f4e7918d008ff0f5e7919200_8ff0f6e7919d008ff0f7e791b100,
  0x8ff0f8e79281008ff0f9e7928500_8ff0fae79288008ff0fbf0a4a98d_8ff0fce79292008ff0fde7929700,
  0x8ff0fee79299008ff1a1e792a000_8ff1a2e792a1008ff1a3e792a500_8ff1a4e792aa008ff1a5e792ab00,
  0x8ff1a6e792b9008ff1a7e792bb00_8ff1a8e792ba008ff1a9e7939600_8ff1aae79398008ff1abe7939e00,
  0x8ff1ace793af008ff1ade793ab00_8ff1aef0a4ad968ff1afe793ba00_8ff1b0f0a4adaf8ff1b1e794a000,
  0x8ff1b2e794a4008ff1b3e794aa00_8ff1b4e3bd97008ff1b5f0a4b096_8ff1b6e794bd008ff1b7e794be00,
  0x8ff1b8e79580008ff1b9e7958800_8ff1bae7958e008ff1bbe7959000_8ff1bce79592008ff1bde795ac00,
  0x8ff1bee795b2008ff1bfe795b100_8ff1c0e795ba008ff1c1e795bd00_8ff1c2e795be008ff1c3e7968100,
  0x8ff1c4f0a4b4948ff1c5e7968c00_8ff1c6e3bdb5008ff1c7e796a200_8ff1c8e3bdb7008ff1c9e796b000,
  0x8ff1cae796b7008ff1cbe796bf00_8ff1cce79780008ff1cde7978600_8ff1cee7978f008ff1cfe7979300,
  0x8ff1d0e7979d008ff1d1e7979f00_8ff1d2e797a0008ff1d3e797a700_8ff1d4e797ac008ff1d5e797ae00,
  0x8ff1d6e797b1008ff1d7e797b900_8ff1d8e79883008ff1d9e7989800_8ff1dae79887008ff1dbe7988f00,
  0x8ff1dce3beae008ff1ddf0a4b88e_8ff1dee79893008ff1dfe7989b00_8ff1e0e7989c008ff1e1f0a4b8b7,
  0x8ff1e2e798a5008ff1e3e798a800_8ff1e4e798bc008ff1e5e798b300_8ff1e6f0a4b9aa8ff1e7e3bf8900,
  0x8ff1e8e79981008ff1e9f0a4ba8b_8ff1eae79989008ff1ebe7999500_8ff1ece3bf97008ff1ede799ae00,
  0x8ff1eee79a95008ff1efe79a9c00_8ff1f0e79aa1008ff1f1e79aa000_8ff1f2e79aa7008ff1f3e79aa800,
  0x8ff1f4e79aaf008ff1f5f0a5818a_8ff1f6e79b89008ff1f7f0a58195_8ff1f8e79ba8008ff1f9e79bac00,
  0x8ff1faf0a584a28ff1fbe79c9700_8ff1fce79c9a008ff1fde79cad00_8ff1fee79cb5008ff2a1f0a586a9,
  0x8ff2a2e480b9008ff2a3f0a587a5_8ff2a4f0a5878d8ff2a5e79d9800_8ff2a6e79da0008ff2a7e79daa00,
  0x8ff2a8f0a5889e8ff2a9e79db200_8ff2aae79dbc008ff2abe79dbd00_8ff2acf0a5898c8ff2ade4819800,
  0x8ff2aee79e9a008ff2afe79e9f00_8ff2b0e79ea2008ff2b1e79ea400_8ff2b2e79ea9008ff2b3e79f9e00,
  0x8ff2b4e79f9f008ff2b5e79fa400_8ff2b6e79fa6008ff2b7e79faa00_8ff2b8e79fac008ff2b9e4829300,
  0x8ff2bae79fb0008ff2bbe79fb400_8ff2bce79fbb008ff2bdf0a590ae_8ff2bee7a085008ff2bfe7a08600,
  0x8ff2c0e7a089008ff2c1e7a08d00_8ff2c2e7a099008ff2c3e7a0a100_8ff2c4e7a0ac008ff2c5e7a18700,
  0x8ff2c6e7a1a4008ff2c7e7a1aa00_8ff2c8f0a593998ff2c9e7a28a00_8ff2cae7a294008ff2cbe7a2a400,
  0x8ff2cce7a29d008ff2cde7a29e00_8ff2cee7a29f008ff2cfe7a2bb00_8ff2d0e7a388008ff2d1e7a38c00,
  0x8ff2d2e7a38e008ff2d3e7a39500_8ff2d4e7a3a0008ff2d5e7a3a100_8ff2d6e7a3a6008ff2d7e7a3b900,
  0x8ff2d8e7a3ba008ff2d9e7a3bb00_8ff2dae7a3be008ff2dbf0a596a7_8ff2dce7a490008ff2dde7a49b00,
  0x8ff2dee7a4b0008ff2dfe7a4a500_8ff2e0e7a4bb008ff2e1e7a58a00_8ff2e2e7a598008ff2e3e7a59b00,
  0x8ff2e4e48485008ff2e5e7a5a700_8ff2e6e7a5b2008ff2e7e7a69400_8ff2e8e7a695008ff2e9e7a69600,
  0x8ff2eae7a69b008ff2ebe7a6a100_8ff2ece7a6a9008ff2ede7a6b400_8ff2eee7a6bb008ff2efe7a78200,
  0x8ff2f0e7a787008ff2f1e7a78c00_8ff2f2e7a78d008ff2f3e7a79600_8ff2f4e48588008ff2f5f0a59ea9,
  0x8ff2f6f0a59eb48ff2f7e4858f00_8ff2f8e7a88a008ff2f9e7a89100_8ff2fae7a895008ff2fbe7a89b00,
  0x8ff2fce7a89e008ff2fde485a300_8ff2fee7a8ad008ff3a1e7a8b800_8ff3a2e7a987008ff3a3e7a98c00,
  0x8ff3a4e7a996008ff3a5e7a99900_8ff3a6e7a99c008ff3a7e7a99f00_8ff3a8e7a9a0008ff3a9e7a9a700,
  0x8ff3aae7a9aa008ff3abe7a9b500_8ff3ace7a9b8008ff3ade7aa8200_8ff3aee7aa8a008ff3afe7aa9000,
  0x8ff3b0e7aaa3008ff3b1e7aaac00_8ff3b2f0a5a7948ff3b3e486b400_8ff3b4e7aab9008ff3b5e7aabc00,
  0x8ff3b6e7aabe008ff3b7e486bf00_8ff3b8e7ab8c008ff3b9e7ab9100_8ff3bae7aba7008ff3bbe7aba800,
  0x8ff3bce7abb4008ff3bdf0a5aba4_8ff3bef0a5aba38ff3bfe7ac8700_8ff3c0f0a5abb18ff3c1e7acbd00,
  0x8ff3c2e7aca7008ff3c3e7acaa00_8ff3c4e7acae008ff3c5e7acaf00_8ff3c6e7acb1008ff3c7e487a600,
  0x8ff3c8e487b3008ff3c9e7adbf00_8ff3cae7ad81008ff3cbe487ae00_8ff3cce7ad95008ff3cde7adb900,
  0x8ff3cee7ada4008ff3cfe7ada600_8ff3d0e7ada9008ff3d1e7adb300_8ff3d2f0a5aeb28ff3d3e4888700,
  0x8ff3d4e7ae90008ff3d5e7ae9100_8ff3d6e7ae9b008ff3d7e4888e00_8ff3d8e7aeaf008ff3d9e7aeb500,
  0x8ff3dae7aebc008ff3dbe7af8500_8ff3dce7af8a008ff3ddf0a5b18b_8ff3def0a5b1a48ff3dfe7af9400,
  0x8ff3e0e7af96008ff3e1e7af9a00_8ff3e2e7afaa008ff3e3e7afb000_8ff3e4e7b083008ff3e5e7b08b00,
  0x8ff3e6e7b08e008ff3e7e7b08f00_8ff3e8e7b0a6008ff3e9e7b18500_8ff3eae7b18a008ff3ebe7b19100,
  0x8ff3ece7b197008ff3ede7b19e00_8ff3eee7b1a1008ff3efe7b1a900_8ff3f0e7b1ae008ff3f1e7b1af00,
  0x8ff3f2e7b1b0008ff3f3f0a5b8ae_8ff3f4f0a5b9968ff3f5f0a5b9a5_8ff3f6e7b2a6008ff3f7f0a5b9a2,
  0x8ff3f8e7b2b6008ff3f9e7b2b700_8ff3fae7b2bf008ff3fbf0a5bb98_8ff3fce7b384008ff3fdf0a5bb82,
  0x8ff3fee7b388008ff4a1e7b38d00_8ff4a2f0a5bba88ff4a3e7b39700_8ff4a4f0a5bca38ff4a5e7b3a600,
  0x8ff4a6e7b3ab008ff4a7f0a5bd9c_8ff4a8e7b3b5008ff4a9e7b48300_8ff4aae7b489008ff4abe48b8600,
  0x8ff4ace7b492008ff4ade7b49e00_8ff4aef0a5bfa08ff4aff0a5bf94_8ff4b0e7b4bd008ff4b1e7b4be00,
  0x8ff4b2e7b580008ff4b3e7b58700_8ff4b4f0a6808c8ff4b5f0a5bfbb_8ff4b6e48b96008ff4b7e7b59900,
  0x8ff4b8e7b59a008ff4b9e7b5aa00_8ff4bae7b5b0008ff4bbe48b9d00_8ff4bce7b5bf008ff4bdf0a68097,
  0x8ff4bee7b686008ff4bfe7b68800_8ff4c0e7b68c008ff4c1e7b69700_8ff4c2f0a681a08ff4c3e7b69d00,
  0x8ff4c4e7b6a7008ff4c5e7b6aa00_8ff4c6e7b6b6008ff4c7e7b6b700_8ff4c8e7b780008ff4c9e7b79700,
  0x8ff4cae7b799008ff4cbe7b7a600_8ff4cce7b7b1008ff4cde7b7b900_8ff4cee48c82008ff4cff0a683ad,
  0x8ff4d0efa998008ff4d1e7b89000_8ff4d2e7b897008ff4d3e7b89d00_8ff4d4e7b8a0008ff4d5e7b8a700,
  0x8ff4d6e7b8ac008ff4d7e7b98500_8ff4d8e7b9b3008ff4d9e7b9b500_8ff4dae7b9be008ff4dbe7ba8600,
  0x8ff4dce7ba87008ff4dde48cab00_8ff4dee7ba91008ff4dfe7ba9800_8ff4e0e7ba9a008ff4e1e48d8300,
  0x8ff4e2e7bcbc008ff4e3e7bcbb00_8ff4e4e7bcbe008ff4e5e7bd8300_8ff4e6e7bd84008ff4e7e7bd8f00,
  0x8ff4e8e39381008ff4e9f0a689b0_8ff4eae7bd92008ff4ebf0a68a86_8ff4ece7bda1008ff4ede7bda300,
  0x8ff4eee7bda4008ff4efe7bdad00_8ff4f0e7bdbd008ff4f1e7bdbe00_8ff4f2f0a68d8c8ff4f3e7be9000,
  0x8ff4f4e585bb008ff4f5f0a3b48e_8ff4f6e7be96008ff4f7e7be9c00_8ff4f8e7bead008ff4f9f0a69082,
  0x8ff4fae7bf83008ff4fbe7bf8f00_8ff4fce7bfa3008ff4fde7bfa500_8ff4fee7bfaf008ff5a1e7bfb200,
  0x8ff5a2e88082008ff5a3e8808a00_8ff5a4e88088008ff5a5e8808e00_8ff5a6e88091008ff5a7e8809600,
  0x8ff5a8e880a4008ff5a9e880ac00_8ff5aae880b0008ff5abe8818300_8ff5ace881a6008ff5ade881b100,
  0x8ff5aee881b5008ff5afe881bb00_8ff5b0e88299008ff5b1e8829c00_8ff5b2e882a4008ff5b3e882a700,
  0x8ff5b4e882b8008ff5b5f0a699be_8ff5b6e88385008ff5b7e8839500_8ff5b8e88398008ff5b9e883a600,
  0x8ff5baf0a69ab08ff5bbe8848d00_8ff5bce883b5008ff5bde883bb00_8ff5bee48fae008ff5bfe884b500,
  0x8ff5c0e88496008ff5c1e8849e00_8ff5c2e48fb0008ff5c3e884a400_8ff5c4e884a7008ff5c5e884ac00,
  0x8ff5c6f0a69c9d8ff5c7e884bd00_8ff5c8e49088008ff5c9e885a900_8ff5cae49097008ff5cbe8868100,
  0x8ff5cce4909c008ff5cde8868400_8ff5cee88685008ff5cfe490a200_8ff5d0e88698008ff5d1e886b200,
  0x8ff5d2e88781008ff5d3e8878300_8ff5d4e88796008ff5d5e8879b00_8ff5d6f0a6a39d8ff5d7e887a400,
  0x8ff5d8f0a6a3aa8ff5d9e887ac00_8ff5daf0a6a5918ff5dbe887bd00_8ff5dce887bf008ff5ddf0a6a5af,
  0x8ff5dee88884008ff5dff0a6a79d_8ff5e0e88899008ff5e1e888a100_8ff5e2e888a2008ff5e3f0a6a89e,
  0x8ff5e4e888b2008ff5e5e888b400_8ff5e6e888bc008ff5e7e8898600_8ff5e8e88989008ff5e9e8898500,
  0x8ff5eaf0a6a9988ff5ebe8898b00_8ff5ece491b6008ff5ede8898f00_8ff5eee491ba008ff5efe8899700,
  0x8ff5f0f0a6aa8c8ff5f1e8899c00_8ff5f2e889a3008ff5f3f0a6aab7_8ff5f4efa99d008ff5f5efa99e00,
  0x8ff5f6e889b9008ff5f7e4929100_8ff5f8e889bd008ff5f9e889bf00_8ff5fae88a83008ff5fbe88a8a00,
  0x8ff5fce88a93008ff5fde88aa700_8ff5fee88aa8008ff6a1e88ab200_8ff6a2e88ab4008ff6a3e88aba00,
  0x8ff6a4e88abc008ff6a5e88ba200_8ff6a6e88ba8008ff6a7e88bb700_8ff6a8e88c87008ff6a9e88c8800,
  0x8ff6aae88c8c008ff6abe88d9400_8ff6ace88c9b008ff6ade88c9d00_8ff6aee88cb0008ff6afe88cbc00,
  0x8ff6b0e88d84008ff6b1e88d9700_8ff6b2e492be008ff6b3e88dbf00_8ff6b4e49394008ff6b5e492b300,
  0x8ff6b6e88e8d008ff6b7e88e9400_8ff6b8e88e95008ff6b9e88e9b00_8ff6bae88e9d008ff6bbe88f8900,
  0x8ff6bce88f90008ff6bde88f9400_8ff6bee88f9d008ff6bfe88fa500_8ff6c0e88fb9008ff6c1e8908f00,
  0x8ff6c2e89091008ff6c3e8909500_8ff6c4f0a6b1b38ff6c5e8909700_8ff6c6e890b9008ff6c7e8918a00,
  0x8ff6c8e8918f008ff6c9e8919100_8ff6cae89192008ff6cbe8919900_8ff6cce8919a008ff6cde8919c00,
  0x8ff6cef0a6b39d8ff6cfe891a500_8ff6d0e891b6008ff6d1e891b800_8ff6d2e891bc008ff6d3e8928100,
  0x8ff6d4e4948d008ff6d5e8939c00_8ff6d6e89297008ff6d7e892a600_8ff6d8e892be008ff6d9e4948800,
  0x8ff6dae8938e008ff6dbe8938f00_8ff6dce89393008ff6ddf0a6b9a5_8ff6dee893a7008ff6dfe893aa00,
  0x8ff6e0e893af008ff6e1e893b000_8ff6e2e893b1008ff6e3e893ba00_8ff6e4e893bd008ff6e5e8948c00,
  0x8ff6e6e8949b008ff6e7e894a400_8ff6e8e894a5008ff6e9e894ab00_8ff6eae894b4008ff6ebe8958f00,
  0x8ff6ece895af008ff6ede494a500_8ff6eee49583008ff6efe894be00_8ff6f0e89591008ff6f1e8959300,
  0x8ff6f2e8959e008ff6f3e895a100_8ff6f4e895a2008ff6f5f0a6be94_8ff6f6e895bb008ff6f7e895bd00,
  0x8ff6f8e895bf008ff6f9e8968100_8ff6fae89686008ff6fbe8969300_8ff6fce8969d008ff6fde8969f00,
  0x8ff6fef0a6bfb88ff7a1f0a6bfb6_8ff7a2f0a6bfb78ff7a3e896b700_8ff7a4e896bc008ff7a5e8978700,
  0x8ff7a6e8978a008ff7a7e8979800_8ff7a8e89799008ff7a9e8979f00_8ff7aae897a1008ff7abe897a600,
  0x8ff7ace897b6008ff7ade8988000_8ff7aee89891008ff7afe8989e00_8ff7b0e898a1008ff7b1e898a400,
  0x8ff7b2e898a7008ff7b3f0a7848d_8ff7b4e898b9008ff7b5e898bc00_8ff7b6f0a784b98ff7b7e8998000,
  0x8ff7b8efa8a0008ff7b9e8999300_8ff7bae89996008ff7bbe899af00_8ff7bce899b7008ff7bde899ba00,
  0x8ff7bee89a87008ff7bfe89a8900_8ff7c0e89a8d008ff7c1e89a9100_8ff7c2e89a9c008ff7c3e89a9d00,
  0x8ff7c4e89aa8008ff7c5efa8a100_8ff7c6e89ab1008ff7c7e89ab300_8ff7c8e89b81008ff7c9e89b8300,
  0x8ff7cae89b91008ff7cbe89b9500_8ff7cce89b97008ff7cde89ba300_8ff7cee89ba6008ff7cfe496b800,
  0x8ff7d0e89c85008ff7d1e89c8700_8ff7d2e89c8e008ff7d3e89c9000_8ff7d4e89c93008ff7d5e89c9900,
  0x8ff7d6e89c9f008ff7d7e89ca100_8ff7d8e89ca3008ff7d9e89cb100_8ff7dae89cba008ff7dbe89cbe00,
  0x8ff7dce89d80008ff7dde89d8300_8ff7dee89d91008ff7dfe89d9800_8ff7e0e89da4008ff7e1e89da500,
  0x8ff7e2e89db2008ff7e3e89dbc00_8ff7e4f0a78f9b8ff7e5f0a78f9a_8ff7e6e89ea7008ff7e7e89e8900,
  0x8ff7e8e89e8b008ff7e9e89e9300_8ff7eae89ea0008ff7ebf0a78fbe_8ff7ece497a5008ff7ede89ebe00,
  0x8ff7eef0a790908ff7efe89f8100_8ff7f0e89f8e008ff7f1e89fb500_8ff7f2e89f9f008ff7f3f0a79189,
  0x8ff7f4e89fa3008ff7f5e89fa500_8ff7f6e89fa6008ff7f7e89faa00_8ff7f8e89fab008ff7f9e89fad00,
  0x8ff7fae8a081008ff7fbe8a08300_8ff7fce8a08b008ff7fde8a09300_8ff7fee8a0a8008ff8a1e8a0ae00,
  0x8ff8a2e8a0b2008ff8a3e8a0bc00_8ff8a4e4988f008ff8a5e8a18a00_8ff8a6e8a198008ff8a7e8a19f00,
  0x8ff8a8e8a1a4008ff8a9f0a79895_8ff8aaf0a798948ff8abe8a1a900_8ff8acf0a798b18ff8ade8a1af00,
  0x8ff8aee8a2a0008ff8afe8a2bc00_8ff8b0e8a2bd008ff8b1e8a2be00_8ff8b2e8a380008ff8b3e8a39200,
  0x8ff8b4f0a79a938ff8b5e8a39100_8ff8b6e8a393008ff8b7e8a39b00_8ff8b8e8a3b0008ff8b9e8a3b100,
  0x8ff8bae49981008ff8bbe8a48100_8ff8bcf0a79c8e8ff8bde8a4b700_8ff8bef0a79ca38ff8bfe8a58200,
  0x8ff8c0e8a585008ff8c1e8a58900_8ff8c2f0a79d928ff8c3e499a500_8ff8c4e8a5a2008ff8c5e8a68000,
  0x8ff8c6e8a689008ff8c7e8a69000_8ff8c8e8a69f008ff8c9e8a6b000_8ff8cae8a6b7008ff8cbe8a79600,
  0x8ff8cce8a798008ff8cde8a7ab00_8ff8cee49aa1008ff8cfe8a7b100_8ff8d0e8a7b3008ff8d1e8a7bd00,
  0x8ff8d2e8a7bf008ff8d3e49aaf00_8ff8d4e8a891008ff8d5e8a89400_8ff8d6f0a7a6858ff8d7e8a8a100,
  0x8ff8d8e8a8b5008ff8d9e8a8be00_8ff8dae8a985008ff8dbe8a98d00_8ff8dce8a998008ff8dde8aaae00,
  0x8ff8dee8aa90008ff8dfe8aab700_8ff8e0e8aabe008ff8e1e8ab9700_8ff8e2e8abbc008ff8e3f0a7aa84,
  0x8ff8e4e8ac8a008ff8e5e8ac8500_8ff8e6e8ac8d008ff8e7e8ac9c00_8ff8e8e8ac9f008ff8e9e8acad00,
  0x8ff8eae8ad83008ff8ebe49c8c00_8ff8ece8ad91008ff8ede8ad9e00_8ff8eee8adb6008ff8efe8adbf00,
  0x8ff8f0e8ae81008ff8f1e8ae8b00_8ff8f2e8ae94008ff8f3e8ae9500_8ff8f4e8ae9c008ff8f5e8ae9e00,
  0x8ff8f6e8b0b9008ff8f7f0a7aeb3_8ff8f8e8b0bd008ff8f9f0a7aebe_8ff8faf0a7af878ff8fbe8b18500,
  0x8ff8fce8b187008ff8fde8b18f00_8ff8fee8b194008ff9a1e8b19700_8ff9a2e8b1a9008ff9a3e8b1ad00,
  0x8ff9a4e8b1b3008ff9a5f0a7b2b8_8ff9a6e8b293008ff9a7e8b29200_8ff9a8e8b299008ff9a9e49da400,
  0x8ff9aae8b29b008ff9abe8b2a400_8ff9ace8b396008ff9ade8b39500_8ff9aee8b399008ff9aff0a7b6a0,
  0x8ff9b0e8b3b0008ff9b1e8b3b100_8ff9b2f0a7b8908ff9b3e8b48900_8ff9b4e8b48e008ff9b5e8b5ac00,
  0x8ff9b6e8b684008ff9b7e8b69500_8ff9b8e8b6a6008ff9b9f0a7beb7_8ff9bae8b786008ff9bbe8b78800,
  0x8ff9bce8b799008ff9bde8b7ac00_8ff9bee8b88c008ff9bfe49fbd00_8ff9c0e8b7bd008ff9c1e8b88600,
  0x8ff9c2f0a8828a8ff9c3e8b89400_8ff9c4e8b896008ff9c5e8b8a100_8ff9c6e8b8a2008ff9c7e8b8a700,
  0x8ff9c8f0a882bb8ff9c9e4a09600_8ff9cae8b8b6008ff9cbe8b8b900_8ff9cce8b98b008ff9cde8b99400,
  0x8ff9cee8b9a2008ff9cfe8b9ac00_8ff9d0e8b9ad008ff9d1e8b9af00_8ff9d2e8ba98008ff9d3e8ba9e00,
  0x8ff9d4e8baae008ff9d5e8bab300_8ff9d6e8bab5008ff9d7e8bab600_8ff9d8e8babb008ff9d9f0a88a82,
  0x8ff9dae8bb91008ff9dbe8bb9400_8ff9dce4a18e008ff9dde8bbb900_8ff9def0a88bb38ff9dfe8bc8000,
  0x8ff9e0e8bc88008ff9e1e8bc9700_8ff9e2e8bcab008ff9e3e8bd8000_8ff9e4e8bd8a008ff9e5e8bd9800,
  0x8ff9e6f0a8908c8ff9e7e8bea400_8ff9e8e8beb4008ff9e9efa9a600_8ff9eae8beb6008ff9ebf0a89195,
  0x8ff9ece8bf81008ff9ede8bf8600_8ff9eeefa8a4008ff9efe8bf8a00_8ff9f0e8bf8d008ff9f1e8bf9300,
  0x8ff9f2e8bf95008ff9f3e8bfa000_8ff9f4e8bfb1008ff9f5e8bfb500_8ff9f6e8bfbb008ff9f7e9808200,
  0x8ff9f8e9808c008ff9f9e980b700_8ff9faf0a895ab8ff9fbe9818300_8ff9fce98184008ff9fde9819d00,
  0x8ff9fef0a897888ffaa1f0a89789_8ffaa2e98285008ffaa3e9828c00_8ffaa4e98290008ffaa5e9989d00,
  0x8ffaa6e982a1008ffaa7e4a2b500_8ffaa8e982b0008ffaa9e982b600_8ffaaae98383008ffaabe9838800,
  0x8ffaacf0a89b978ffaade9839c00_8ffaaee9839f008ffaaff0a89bba_8ffab0e983b6008ffab1e983b200,
  0x8ffab2e98480008ffab3e983ab00_8ffab4e983be008ffab5e983bf00_8ffab6e98484008ffab7e9848600,
  0x8ffab8e98498008ffab9e9849c00_8ffabae9849e008ffabbe984b700_8ffabce984b9008ffabde984ba00,
  0x8ffabee98586008ffabfe9858700_8ffac0e98597008ffac1e9859900_8ffac2e985a1008ffac3e985a400,
  0x8ffac4e985b4008ffac5e985b900_8ffac6e98685008ffac7e9868e00_8ffac8e986a8008ffac9e986ae00,
  0x8ffacae986b3008ffacbe986b600_8ffacce98783008ffacde9878400_8ffacee9879a008ffacff0a8a589,
  0x8ffad0f0a8a5868ffad1e987ac00_8ffad2e987ae008ffad3e9888100_8ffad4e9888a008ffad5e9889600,
  0x8ffad6e98897008ffad7f0a8a5ab_8ffad8e988b3008ffad9e9898200_8ffadae98987008ffadbe9898a00,
  0x8ffadce9898e008ffadde9899100_8ffadee98996008ffadfe9899900_8ffae0e989a0008ffae1e989a100,
  0x8ffae2e989a5008ffae3e989a700_8ffae4e989a8008ffae5f0a8a687_8ffae6f0a8a6888ffae7e989bc00,
  0x8ffae8e989bd008ffae9e989bf00_8ffaeae98a89008ffaebe98a8d00_8ffaece98a97008ffaede98a9900,
  0x8ffaeee98a9f008ffaefe98aa700_8ffaf0e98aab008ffaf1f0a8a6ba_8ffaf2f0a8a6bb8ffaf3e98ab200,
  0x8ffaf4e98abf008ffaf5e98b8000_8ffaf6e98b86008ffaf7e98b8e00_8ffaf8e98b90008ffaf9e98b9700,
  0x8ffafae98b99008ffafbe98ba500_8ffafce98ba7008ffafde98c9100_8ffafef0a8a89e8ffba1f0a8a8a9,
  0x8ffba2e98bb7008ffba3e98bb900_8ffba4e98bbb008ffba5e98c8200_8ffba6e98c8d008ffba7e98c9500,
  0x8ffba8e98c9d008ffba9e98c9e00_8ffbaae98ca7008ffbabe98ca900_8ffbacf0a8a9b18ffbadf0a8a983,
  0x8ffbaee98d87008ffbafe98d9100_8ffbb0e98d97008ffbb1e98d9a00_8ffbb2e98dab008ffbb3e98db100,
  0x8ffbb4e98db3008ffbb5e98ea100_8ffbb6f0a8aa998ffbb7f0a8ab8d_8ffbb8e98e88008ffbb9e98e8b00,
  0x8ffbbae98e8f008ffbbbe98e9e00_8ffbbce98fb5008ffbbdf0a8aba4_8ffbbef0a8ab9d8ffbbfe98fb100,
  0x8ffbc0e98f81008ffbc1e98f8700_8ffbc2e98f9c008ffbc3e98fa200_8ffbc4e98fa7008ffbc5e9908900,
  0x8ffbc6e9908f008ffbc7e9909600_8ffbc8e99097008ffbc9e98fbb00_8ffbcae990b2008ffbcbe990b400,
  0x8ffbcce990bb008ffbcde9918500_8ffbcef0a8af818ffbcff0a8afaf_8ffbd0e991ad008ffbd1e991af00,
  0x8ffbd2e995b8008ffbd3e995b900_8ffbd4e99686008ffbd5e9968c00_8ffbd6e9968d008ffbd7f0a8b490,
  0x8ffbd8e996ab008ffbd9e996b400_8ffbdaf0a8b5b18ffbdbe9978800_8ffbdcf0a8b7bb8ffbddf0a8b89f,
  0x8ffbdee998ac008ffbdfe998b300_8ffbe0e998b4008ffbe1f0a8b8b6_8ffbe2e998bc008ffbe3e9998100,
  0x8ffbe4e999a1008ffbe5f0a8ba89_8ffbe6e99a82008ffbe7f0a8bbab_8ffbe8e99a9a008ffbe9f0a8bcb2,
  0x8ffbeae4a7a7008ffbebe99aa900_8ffbece99aaf008ffbede99ab300_8ffbeee99aba008ffbefe99abd00,
  0x8ffbf0e4a7ba008ffbf1f0a8bfb8_8ffbf2e99b98008ffbf3e99b9a00_8ffbf4e99b9d008ffbf5e4a88400,
  0x8ffbf6e99c94008ffbf7e99ca300_8ffbf8e4a8a9008ffbf9e99cb600_8ffbfae99d81008ffbfbe99d8700,
  0x8ffbfce99d95008ffbfde99d9700_8ffbfee99d9b008ffca1e99daa00_8ffca2f0a98aa08ffca3f0a98ab1,
  0x8ffca4e99e96008ffca5e99e9a00_8ffca6e99e9e008ffca7e99ea200_8ffca8e99eb1008ffca9e99eb200,
  0x8ffcaae99ebe008ffcabe99f8c00_8ffcace99f91008ffcade99f9400_8ffcaee99f98008ffcafe99f9900,
  0x8ffcb0e99fa1008ffcb1e99fb100_8ffcb2e9a084008ffcb3e9a08d00_8ffcb4e9a08e008ffcb5e9a09400,
  0x8ffcb6e9a096008ffcb7e4aabc00_8ffcb8f0a992908ffcb9e9a0a300_8ffcbae9a0b2008ffcbbe9a0b300,
  0x8ffcbce9a0a5008ffcbde9a18700_8ffcbee9a1a6008ffcbfe9a2ab00_8ffcc0e9a2ad008ffcc1e9a2b000,
  0x8ffcc2f0a9978f8ffcc3e9a2b700_8ffcc4e9a2b8008ffcc5e9a2bb00_8ffcc6e9a2bc008ffcc7e9a2bf00,
  0x8ffcc8e9a382008ffcc9e9a38700_8ffccae9a38b008ffccbe9a3a000_8ffcccf0a999bf8ffccde9a3a100,
  0x8ffccee9a3a3008ffccfe9a3a500_8ffcd0e9a3aa008ffcd1e9a3b000_8ffcd2e9a3b1008ffcd3e9a3b300,
  0x8ffcd4e9a488008ffcd5e4acbb00_8ffcd6f0a99bb08ffcd7e9a49600_8ffcd8e9a497008ffcd9f0a99c99,
  0x8ffcdae9a49a008ffcdbe9a49b00_8ffcdce9a49c008ffcddf0a99d90_8ffcdee9a4b1008ffcdfe9a4b200,
  0x8ffce0e9a4b3008ffce1e9a4ba00_8ffce2e9a4bb008ffce3e9a4bc00_8ffce4e9a580008ffce5e9a58100,
  0x8ffce6e9a586008ffce7e9a58d00_8ffce8e9a58e008ffce9e9a59c00_8ffceae9a59f008ffcebe9a5a000,
  0x8ffcece9a6a3008ffcede9a6a600_8ffceee9a6b9008ffcefe9a6bd00_8ffcf0e9a6bf008ffcf1e9a78300,
  0x8ffcf2e9a789008ffcf3e9a79400_8ffcf4e9a799008ffcf5e9a79e00_8ffcf6f0a9a3868ffcf7e9a7b000,
  0x8ffcf8e9a7b9008ffcf9e9a7bc00_8ffcfae9a88a008ffcfbe9a89100_8ffcfce9a896008ffcfde9a89a00,
  0x8ffcfee9a8a0008ffda1e9a8b100_8ffda2e9a8b6008ffda3e9a98400_8ffda4e9a98c008ffda5e9a99800,
  0x8ffda6e4af82008ffda7e9aaaf00_8ffda8e4af8a008ffda9e9aab700_8ffdaae4af92008ffdabe9aab900,
  0x8ffdacf0a9a9b28ffdade9ab8600_8ffdaee9ab90008ffdafe9ab9200_8ffdb0e9ab95008ffdb1e4afa800,
  0x8ffdb2e9ab9c008ffdb3e9aba000_8ffdb4e9aba5008ffdb5e9aba900_8ffdb6e9ac83008ffdb7e9ac8c00,
  0x8ffdb8e9ac90008ffdb9e9ac9200_8ffdbae9ac96008ffdbbe9ac9c00_8ffdbce9acab008ffdbde9acb300,
  0x8ffdbee9acbd008ffdbfe4b0a000_8ffdc0e9ad8b008ffdc1e9ada300_8ffdc2e9ada5008ffdc3e9adab00,
  0x8ffdc4e9adac008ffdc5e9adb300_8ffdc6e9adb6008ffdc7e9adb700_8ffdc8e9aea6008ffdc9e9aeac00,
  0x8ffdcae9aeb1008ffdcbf0a9b79b_8ffdccf0a9b8bd8ffdcde9aeb200_8ffdcee9aeb8008ffdcfe9aebe00,
  0x8ffdd0e9af87008ffdd1e9afb300_8ffdd2e9af98008ffdd3e9af9d00_8ffdd4e9afa7008ffdd5e9afaa00,
  0x8ffdd6e9afab008ffdd7e9afaf00_8ffdd8e9afae008ffdd9f0a9b895_8ffddae9afba008ffddbf0a9ba8a,
  0x8ffddce9afb7008ffdddf0a9b989_8ffddee9b096008ffddfe9b09800_8ffde0e9b099008ffde1e9b09a00,
  0x8ffde2e9b09d008ffde3e9b0a200_8ffde4e9b0a7008ffde5e9b0a900_8ffde6e9b0aa008ffde7f0a9bb84,
  0x8ffde8e9b0b1008ffde9e9b0b600_8ffdeae9b0b7008ffdebe9b18500_8ffdece9b19c008ffdedf0a9bba9,
  0x8ffdeee9b189008ffdefe9b18a00_8ffdf0f0a9bb9b8ffdf1e9b19400_8ffdf2e9b198008ffdf3e9b19b00,
  0x8ffdf4e9b19d008ffdf5e9b19f00_8ffdf6e9b1a9008ffdf7e9b1aa00_8ffdf8e9b1ab008ffdf9e9b1ad00,
  0x8ffdfae9b1ae008ffdfbe9b1b000_8ffdfce9b1b2008ffdfde9b1b500_8ffdfee9b1ba008ffea1e9b3a600,
  0x8ffea2e9b3b2008ffea3e9b48b00_8ffea4e9b482008ffea5f0a9bf8e_8ffea6e9b491008ffea7e9b49700,
  0x8ffea8e9b498008ffea9f0aa80af_8ffeaae4b384008ffeabf0aa809a_8ffeace9b4b2008ffeade4b39100,
  0x8ffeaee9b582008ffeafe9b58a00_8ffeb0e9b59f008ffeb1e9b5a200_8ffeb2f0aa83b98ffeb3e9b5a900,
  0x8ffeb4e9b5ab008ffeb5f0aa8282_8ffeb6e9b5b3008ffeb7e9b5b600_8ffeb8e9b5b7008ffeb9e9b5be00,
  0x8ffebae9b684008ffebbe9b68d00_8ffebce9b699008ffebde9b6a100_8ffebee9b6bf008ffebfe9b6b500,
  0x8ffec0e9b6b9008ffec1e9b6bd00_8ffec2e9b783008ffec3e9b78700_8ffec4e9b789008ffec5e9b79600,
  0x8ffec6e9b79a008ffec7e9b79f00_8ffec8e9b7a0008ffec9e9b7a300_8ffecae9b7b4008ffecbe4b48700,
  0x8ffecce9b88a008ffecde9b88200_8ffecee9b88d008ffecfe9b89900_8ffed0e9b89c008ffed1e9b89d00,
  0x8ffed2e9b9bb008ffed3f0a28898_8ffed4e9ba80008ffed5e9ba8500_8ffed6e9ba9b008ffed7e9baa800,
  0x8ffed8f0aa8e8c8ffed9e9babd00_8ffedaf0aa90b78ffedbe9bb9f00_8ffedce9bba7008ffedde9bbae00,
  0x8ffedee9bbbf008ffedfe9bc8200_8ffee0e4b5b7008ffee1e9bc8300_8ffee2e9bc97008ffee3e9bc9900,
  0x8ffee4e9bcaf008ffee5e9bcb700_8ffee6e9bcba008ffee7e9bcbd00_8ffee8e9bd81008ffee9e9bd8500,
  0x8ffeeae9bd86008ffeebe9bd9300_8ffeece9bd95008ffeede9bd9800_8ffeeef0aa97b18ffeefe9bd9d00,
  0x8ffef0f0aa98828ffef1e9bda900_8ffef2f0aa989a8ffef3e9bdad00_8ffef4e9bdb0008ffef5e9bdb500]

/-- `euc_utf8`: the six rows of each three lines, and the one row of the last line. -/
def eucUtf8 : List ℕ :=
  (eucUtf8Lines.flatMap fun lines => [lines >>> 280, lines >>> 224 % 2 ^ 56,
    lines >>> 168 % 2 ^ 56, lines >>> 112 % 2 ^ 56, lines >>> 56 % 2 ^ 56, lines % 2 ^ 56]) ++
  [0x8ffef6f0aa9ab2]

/-- `EncodingTable::get`. -/
def get : Bytes := header ++ (eucUtf8Combine.flatMap (bigEndian 11) ++ eucUtf8.flatMap (bigEndian 7))

end EncodingTable

end Yaskkserv2
